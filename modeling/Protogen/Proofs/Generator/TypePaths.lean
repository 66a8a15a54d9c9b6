import Protogen.Proofs.Generator.Collisions

/-!
# Types by their paths

The path of a message or an enum is made of the names of the messages around it and of its
own name. Declarations and generated items come in one order, so the item of a type is the
one at the place of its declaration, whatever else has the same name. It stands in the
modules that the names around the type are converted to.
-/

namespace Protogen

namespace Generator

open Descriptor Name Source

/-- The path of the type that is declared, if it is one that fields can name. -/
def Declared.typePath? : Declared → Option (List String)
  | .message outer m => some (outer ++ [m.name])
  | .enum outer e => some (outer ++ [e.name])
  | .oneof _ _ _ _ => none

/-- The type at the path is generated in the modules and under the name: there its
declaration has its item. -/
def GeneratedAs (file : FileDescriptor) (items : List Item) (path modules : List String)
    (name : String) : Prop :=
  ∃ d item, (d, (modules, item)) ∈ (declaredByFile file).zip (contentsOf [] items) ∧
    d.typePath? = some path ∧ item.typeName? = some name

/-- Messages outside of map entries are emitted. -/
theorem EmittedAt.of_plainAt {file : FileDescriptor} {ms : List MessageDescriptor}
    {path : List String} {n : MessageDescriptor} (h : PlainAt ms path n) (outer : List String)
    (hms : ∀ m ∈ ms, m.isMapEntry = false → EmittedAt file outer m) :
    ∃ inner, path = inner ++ [n.name] ∧ EmittedAt file (outer ++ inner) n := by
  induction h generalizing outer with
  | here hm hplain => exact ⟨[], rfl, by simpa using hms _ hm hplain⟩
  | @inside ms m n path hm hplain _ ih =>
      have hemitted := hms m hm hplain
      obtain ⟨inner, rfl, hn⟩ := ih (outer ++ [m.name]) fun n hn hentry => hemitted.nested hn hentry
      exact ⟨m.name :: inner, rfl, by simpa using hn⟩

/-- What a file defines outside of its map entries is declared. -/
theorem exists_declared_of_definedAt {file : FileDescriptor} {path : List String}
    {definition : Definition} (h : DefinedAt file path definition) :
    ∃ d ∈ declaredByFile file, d.typePath? = some path := by
  cases h with
  | @message path m hm =>
      obtain ⟨outer, rfl, hemitted⟩ := EmittedAt.of_plainAt hm [] fun m hm _ => .top hm
      exact ⟨.message outer m.body, (mem_declaredByFile_iff _ _).mpr (.inl ⟨outer, m, hemitted,
        .message⟩), rfl⟩
  | @nested path m e hm he =>
      obtain ⟨outer, rfl, hemitted⟩ := EmittedAt.of_plainAt hm [] fun m hm _ => .top hm
      exact ⟨.enum (outer ++ [m.name]) e, (mem_declaredByFile_iff _ _).mpr (.inl ⟨outer, m,
        hemitted, .enum he⟩), rfl⟩
  | @enum e he => exact ⟨.enum [] e, (mem_declaredByFile_iff _ _).mpr (.inr ⟨e, he, rfl⟩), rfl⟩

namespace FileEmission

variable {ctx : Context} {file : FileDescriptor}

theorem represents_items (e : FileEmission ctx file) :
    List.Forall₂ Represents (declaredByFile file) (contentsOf [] e.items) :=
  e.yields_items.imp fun _ _ => represents_of_yields

theorem isIdentifier_of_emittedAt (e : FileEmission ctx file) {outer : List String}
    {m : MessageDescriptor} (h : EmittedAt file outer m) :
    ∀ s ∈ outer ++ [m.name], isIdentifier s := by
  induction h with
  | top hm => exact List.forall_mem_singleton.mpr (e.exists_struct_of_message (.top hm)).1
  | nested hm hn hplain ih =>
      refine List.forall_mem_append.mpr ⟨ih, List.forall_mem_singleton.mpr ?_⟩
      exact (e.exists_struct_of_message (hm.nested hn hplain)).1

/-- All names on the path of a type that is generated are identifiers. -/
theorem isIdentifier_of_typePath? (e : FileEmission ctx file) {d : Declared}
    (hd : d ∈ declaredByFile file) {path : List String} (hpath : d.typePath? = some path) :
    ∀ s ∈ path, isIdentifier s := by
  obtain ⟨modules, item, -, hyields⟩ := e.exists_within_of_declared hd
  have hname (outer : List String) (n : EnumDescriptor) (h : d = .enum outer n) :
      isIdentifier n.name := by
    obtain rfl := h
    obtain _ | _ | hitem := hyields
    exact isIdentifier_of_named _ _ ((Outcome.then_eq_ok_iff _ _ _).mp hitem).1
  rcases (mem_declaredByFile_iff _ _).mp hd with ⟨outer, m, hm, hof⟩ | ⟨n, -, rfl⟩
  · cases hof with
    | message =>
        obtain rfl := Option.some.inj hpath
        exact e.isIdentifier_of_emittedAt hm
    | oneof hp => simp [Declared.typePath?] at hpath
    | @enum n hn =>
        obtain rfl := Option.some.inj hpath
        exact List.forall_mem_append.mpr ⟨e.isIdentifier_of_emittedAt hm,
          List.forall_mem_singleton.mpr (hname _ n rfl)⟩
  · obtain rfl := Option.some.inj hpath
    exact List.forall_mem_singleton.mpr (hname _ n rfl)

/-- Every type that is declared is generated somewhere. -/
theorem exists_generatedAs (e : FileEmission ctx file) {d : Declared}
    (hd : d ∈ declaredByFile file) {path : List String} (hpath : d.typePath? = some path) :
    ∃ modules name, GeneratedAs file e.items path modules name := by
  obtain ⟨⟨modules, item⟩, -, hmem, hrepresents⟩ :=
    Outcome.exists_right_of_forall₂ (Outcome.forall₂_mem_zip e.represents_items) d hd
  have hname : ∃ name, item.typeName? = some name := by
    cases hrepresents with
    | message | oneof | enum => exact ⟨_, rfl⟩
  obtain ⟨name, hname⟩ := hname
  exact ⟨modules, name, d, item, hmem, hpath, hname⟩

/-- The item of a type has the converted name of the type and stands in the converted names
around it. -/
theorem generatedAs_spec (e : FileEmission ctx file) {path modules : List String} {name : String}
    (h : GeneratedAs file e.items path modules name) :
    (∀ s ∈ path, isIdentifier s) ∧
      (∃ outer last, path = outer ++ [last] ∧ modules = outer.map moduleName ∧
        name = typeName last) ∧
      ∃ item, Within e.items modules item ∧ item.typeName? = some name := by
  obtain ⟨d, item, hmem, hpath, hname⟩ := h
  obtain ⟨hd, hcontents⟩ := List.of_mem_zip hmem
  obtain ⟨_, rfl, hwithin, -⟩ := (mem_contentsOf_iff modules item [] e.items).mp hcontents
  refine ⟨e.isIdentifier_of_typePath? hd hpath, ?_, item, hwithin, hname⟩
  have hrepresents := Outcome.of_mem_zip_of_forall₂ e.represents_items hmem
  cases hrepresents with
  | @message outer m =>
      exact ⟨outer, m.name, (Option.some.inj hpath).symm, rfl, (Option.some.inj hname).symm⟩
  | oneof => simp [Declared.typePath?] at hpath
  | @enum outer n =>
      exact ⟨outer, n.name, (Option.some.inj hpath).symm, rfl, (Option.some.inj hname).symm⟩

end FileEmission

end Generator

end Protogen
