import Protogen.Generator.Field
import Protogen.Proofs.Name.Converted
import Protogen.Proofs.Outcome

/-!
# What becomes of a field

Whatever is generated for a field, its name is an identifier, and the result has the converted
name, the number and the documentation of the field. What the result is made of and which checks
the field has passed is read off here once for every function, so that no later proof has to go
through the steps of one.
-/

namespace Protogen

namespace Generator

open Descriptor Name Source

theorem eq_ok_of_named {α : Type} (x : Except NameError α) (a : α) (h : named x = .ok a) :
    x = .ok a := (Outcome.mapError_eq_ok_iff x _ a).mp h

theorem isIdentifier_of_named (name what : String) (h : named (checkName name what) = .ok ()) :
    isIdentifier name := isIdentifier_of_checkName name what (eq_ok_of_named _ _ h)

theorem typeName_of_named (name id : String) (hname : isIdentifier name)
    (h : named (typeIdentifier name) = .ok id) : id = typeName name ∧ IsPathName id := by
  obtain ⟨hwritable, rfl⟩ := (identifierFor_eq_ok_iff _ _ _ _).mp (eq_ok_of_named _ _ h)
  exact ⟨rfl, isPathName_typeName name hname hwritable⟩

theorem moduleName_of_named (name id : String) (hname : isIdentifier name)
    (h : named (moduleIdentifier name) = .ok id) : id = moduleName name ∧ IsPathName id := by
  obtain ⟨hwritable, rfl⟩ := (identifierFor_eq_ok_iff _ _ _ _).mp (eq_ok_of_named _ _ h)
  exact ⟨rfl, isPathName_moduleName name hname hwritable⟩

theorem fieldName_of_named (name id : String) (h : named (fieldIdentifier name) = .ok id) :
    id = fieldName name :=
  ((identifierFor_eq_ok_iff _ _ _ _).mp (eq_ok_of_named _ _ h)).2

theorem TypeIndex.get_eq_ok_iff (types : TypeIndex) (name : String) (info : TypeInfo) :
    types.get name = .ok info ↔ types.find? name = some info := by
  rw [get]
  cases types.find? name with
  | none => simp
  | some other => simp

namespace Context

variable {ctx : Context} {place : String} {depth : Nat} {f : FieldDescriptor}

theorem reference_eq_ok {name : String} {reference : Reference}
    (h : ctx.reference name depth = .ok reference) :
    ∃ info, ctx.types.find? name = some info ∧
      ((info.file = ctx.fileName ∧ reference = .inFile depth (info.path.dropLast.map moduleName)
          (typeName (info.path.getLast?.getD ""))) ∨
        (info.file ≠ ctx.fileName ∧ ∃ path, ctx.mapping.resolve? name = some path ∧
          reference = .elsewhere path)) := by
  obtain ⟨info, hinfo, h⟩ := (Outcome.bind_eq_ok_iff _ _ _).mp h
  refine ⟨info, (TypeIndex.get_eq_ok_iff _ _ _).mp hinfo, ?_⟩
  split at h
  · rename_i hfile
    exact .inl ⟨hfile, (Except.ok.inj h).symm⟩
  · rename_i hfile
    split at h
    · rename_i path hpath
      exact .inr ⟨hfile, path, hpath, (Except.ok.inj h).symm⟩
    · simp at h

theorem messageElement_eq_ok {name : String} {element : Element}
    (h : ctx.messageElement name depth = .ok element) :
    ∃ reference type, ctx.reference name depth = .ok reference ∧
      TypeExpr.parse reference.text = .ok type ∧ element = .message reference type := by
  obtain ⟨reference, hreference, h⟩ := (Outcome.bind_eq_ok_iff _ _ _).mp h
  split at h
  · rename_i type htype
    exact ⟨reference, type, hreference, htype, (Except.ok.inj h).symm⟩
  · simp at h

theorem enumElement_eq_ok {name : String} {element : Element}
    (h : ctx.enumElement name depth = .ok element) :
    ∃ reference, ctx.reference name depth = .ok reference ∧ element = .enumeration reference := by
  obtain ⟨reference, hreference, h⟩ := (Outcome.bind_eq_ok_iff _ _ _).mp h
  exact ⟨reference, hreference, (Except.ok.inj h).symm⟩

theorem expectKind_eq_ok_iff (kind : TypeKind) (declared : String) :
    ctx.expectKind f kind declared = .ok () ↔
      ∃ info, ctx.types.find? f.typeName = some info ∧ info.kind = kind := by
  rw [expectKind, Outcome.bind_eq_ok_iff]
  refine exists_congr fun info => ?_
  rw [TypeIndex.get_eq_ok_iff]
  simp

/-- Elements outside of maps are written as declared, after a check of what is named. -/
theorem element_eq_ok {element : Element} (h : ctx.element f depth = .ok element) :
    (∃ type, f.type = .scalar type ∧ element = .scalar type) ∨
      (f.type = .message ∧ ctx.expectKind f .message "Message" = .ok () ∧
        ctx.messageElement f.typeName depth = .ok element) ∨
      (f.type = .enum ∧ ctx.expectKind f .enum "Enum" = .ok () ∧
        ctx.enumElement f.typeName depth = .ok element) := by
  rw [Context.element] at h
  split at h
  · rename_i htype
    exact .inr (.inl ⟨htype, (Outcome.then_eq_ok_iff _ _ _).mp h⟩)
  · rename_i htype
    exact .inr (.inr ⟨htype, (Outcome.then_eq_ok_iff _ _ _).mp h⟩)
  · simp at h
  · rename_i type htype
    exact .inl ⟨type, htype, (Except.ok.inj h).symm⟩

/-- The values of maps are written as declared, and what is named is not checked. -/
theorem mapValue_eq_ok {value : FieldDescriptor} {element : Element}
    (h : ctx.mapValue f value depth = .ok element) :
    (∃ type, value.type = .scalar type ∧ element = .scalar type) ∨
      (value.type = .message ∧ ctx.messageElement value.typeName depth = .ok element) ∨
      (value.type = .enum ∧ ctx.enumElement value.typeName depth = .ok element) := by
  rw [mapValue] at h
  split at h
  · rename_i htype
    exact .inr (.inl ⟨htype, h⟩)
  · rename_i htype
    exact .inr (.inr ⟨htype, h⟩)
  · simp at h
  · rename_i type htype
    exact .inl ⟨type, htype, (Except.ok.inj h).symm⟩

theorem mapFields?_eq_some {key value : FieldDescriptor}
    (h : ctx.mapFields? f = some (key, value)) :
    f.label = .repeated ∧ f.type = .message ∧ ∃ info, ctx.types.find? f.typeName = some info ∧
      info.mapFields? = some (key, value) := by
  rw [mapFields?] at h
  split at h
  · rename_i hrepeated
    exact ⟨hrepeated.1, hrepeated.2, Option.bind_eq_some_iff.mp h⟩
  · simp at h

theorem mapKey_eq_ok {key : FieldDescriptor} {type : Scalar} (h : mapKey f key = .ok type) :
    key.type = .scalar type := by
  rw [mapKey] at h
  split at h
  · rename_i htype
    split at h
    · rw [htype, Except.ok.inj h]
    · simp at h
  all_goals simp at h

/-- A field becomes a member with its own element and cardinality, unless it is a map: then it
becomes one with the key and the value of its entry. -/
theorem member_eq_ok {member : Member} (h : ctx.member place f depth = .ok member) :
    isIdentifier f.name ∧
      ((ctx.mapFields? f = none ∧ ∃ element, ctx.element f depth = .ok element ∧
          member = .field (ctx.docs (placeIn place f.name)) (fieldName f.name) f.number element
            (ctx.cardinality f)) ∨
        ∃ key value type element, ctx.mapFields? f = some (key, value) ∧
          mapKey f key = .ok type ∧ ctx.mapValue f value depth = .ok element ∧
          member = .map (ctx.docs (placeIn place f.name)) (fieldName f.name) f.number type
            element) := by
  obtain ⟨hcheck, h⟩ := (Outcome.then_eq_ok_iff _ _ _).mp h
  obtain ⟨name, hname, h⟩ := (Outcome.bind_eq_ok_iff _ _ _).mp h
  obtain rfl := fieldName_of_named _ name hname
  refine ⟨isIdentifier_of_named _ _ hcheck, ?_⟩
  split at h
  · rename_i key value hmap
    obtain ⟨type, htype, h⟩ := (Outcome.bind_eq_ok_iff _ _ _).mp h
    obtain ⟨element, helement, h⟩ := (Outcome.bind_eq_ok_iff _ _ _).mp h
    exact .inr ⟨key, value, type, element, hmap, htype, helement, (Except.ok.inj h).symm⟩
  · rename_i hmap
    obtain ⟨element, helement, h⟩ := (Outcome.bind_eq_ok_iff _ _ _).mp h
    exact .inl ⟨hmap, element, helement, (Except.ok.inj h).symm⟩

theorem member_of_not_map {member : Member} (hmap : ctx.mapFields? f = none)
    (h : ctx.member place f depth = .ok member) :
    ∃ element, ctx.element f depth = .ok element ∧
      member = .field (ctx.docs (placeIn place f.name)) (fieldName f.name) f.number element
        (ctx.cardinality f) := by
  obtain ⟨-, ⟨-, hplain⟩ | ⟨_, _, _, _, hsome, -⟩⟩ := member_eq_ok h
  · exact hplain
  · simp [hmap] at hsome

/-- A member of a oneof becomes a variant, one module deeper than the structure. -/
theorem variant_eq_ok {v : Variant} (h : ctx.variant place depth f = .ok v) :
    isIdentifier f.name ∧ ∃ element, ctx.element f (depth + 1) = .ok element ∧
      v = ⟨ctx.docs (placeIn place f.name), typeName f.name, f.number, element⟩ := by
  obtain ⟨hcheck, h⟩ := (Outcome.then_eq_ok_iff _ _ _).mp h
  obtain ⟨name, hname, h⟩ := (Outcome.bind_eq_ok_iff _ _ _).mp h
  obtain ⟨element, helement, h⟩ := (Outcome.bind_eq_ok_iff _ _ _).mp h
  have hidentifier := isIdentifier_of_named _ _ hcheck
  obtain ⟨rfl, -⟩ := typeName_of_named _ name hidentifier hname
  exact ⟨hidentifier, element, helement, (Except.ok.inj h).symm⟩

end Context

end Generator

end Protogen
