import Protogen.Proofs.Generator.Emission

/-!
# Variants of enumerations

The variants of an enumeration are those of the values that are the first of their number. Each
carries the name of its value, so the names of the schema lead to the variants, as long as they
are distinct. The identifiers are converted from these names one by one and nothing keeps them
apart: only if they are distinct does every variant find its own name, and itself through it.
-/

namespace Protogen

namespace Source

namespace EnumVariant

/-- The name of the schema that a variant is given: a match takes the first arm for it. -/
def schemaName? (variants : List EnumVariant) (name : String) : Option String :=
  (variants.map fun v => (v.name, v.schemaName)).lookup name

/-- The variant that is found for a name of the schema. -/
def variant? (variants : List EnumVariant) (schemaName : String) : Option String :=
  (variants.map fun v => (v.schemaName, v.name)).lookup schemaName

/-- The variants are told apart, and between them and their names there is a way forth and back. -/
structure RoundTrips (variants : List EnumVariant) : Prop where
  apart : (variants.map name).Nodup
  forth : ∀ v ∈ variants, schemaName? variants v.name = some v.schemaName
  back : ∀ v ∈ variants, (schemaName? variants v.name).bind (variant? variants) = some v.name

/-- With distinct keys every entry is found. -/
theorem lookup_map_of_nodup {variants : List EnumVariant} {key value : EnumVariant → String}
    (h : (variants.map key).Nodup) {v : EnumVariant} (hv : v ∈ variants) :
    (variants.map fun v => (key v, value v)).lookup (key v) = some (value v) := by
  obtain ⟨before, after, rfl⟩ := List.append_of_mem hv
  rw [List.map_append, List.map_cons] at h
  have hbefore : ∀ w ∈ before, key v ≠ key w := by
    intro w hw heq
    refine (List.nodup_append.mp h).2.2 (key w) (List.mem_map_of_mem hw) (key v) ?_ heq.symm
    exact List.mem_cons_self
  refine List.lookup_eq_some_iff.mpr ⟨before.map fun v => (key v, value v),
    after.map fun v => (key v, value v), by simp, ?_⟩
  simpa using hbefore

/-- The names of the schema are given back only if the identifiers are distinct. -/
theorem roundTrips_iff {variants : List EnumVariant}
    (h : (variants.map schemaName).Nodup) :
    RoundTrips variants ↔ (variants.map name).Nodup := by
  refine ⟨RoundTrips.apart, fun hapart => ?_⟩
  have hforth : ∀ v ∈ variants, schemaName? variants v.name = some v.schemaName :=
    fun v hv => lookup_map_of_nodup hapart hv
  refine ⟨hapart, hforth, fun v hv => ?_⟩
  rw [hforth v hv]
  exact lookup_map_of_nodup h hv

end EnumVariant

end Source

namespace Generator

open Descriptor Name Request Source

/-- Of the values with one number the first is kept, and they stay in their order. -/
structure OnePerNumber (values kept : List EnumValueDescriptor) : Prop where
  sublist : kept.Sublist values
  numbers : (kept.map EnumValueDescriptor.number).Nodup
  first : ∀ v ∈ kept, values.find? (fun w => w.number == v.number) = some v
  all : ∀ v ∈ values, v.number ∈ kept.map EnumValueDescriptor.number

theorem firstOfNumber_sublist (seen : List Int32) (values : List EnumValueDescriptor) :
    (firstOfNumber seen values).Sublist values := by
  induction values generalizing seen with
  | nil => exact .refl _
  | cons w values ih =>
      rw [firstOfNumber]
      split
      · exact (ih seen).cons w
      · exact (ih _).cons_cons w

theorem mem_firstOfNumber_iff (seen : List Int32) (values : List EnumValueDescriptor)
    (v : EnumValueDescriptor) :
    v ∈ firstOfNumber seen values ↔
      v.number ∉ seen ∧ values.find? (fun w => w.number == v.number) = some v := by
  induction values generalizing seen with
  | nil => simp [firstOfNumber]
  | cons w values ih =>
      rw [firstOfNumber, List.find?_cons]
      by_cases hsame : w.number = v.number
      · -- The first value of the number is either kept, or none of the number is.
        by_cases hseen : v.number ∈ seen
        · simp [hsame, hseen, ih]
        · simp [hsame, hseen, ih, eq_comm]
      · have hother : (w.number == v.number) = false := beq_eq_false_iff_ne.mpr hsame
        have hne : v ≠ w := by
          rintro rfl
          exact hsame rfl
        by_cases hseen : w.number ∈ seen
        · simp [hother, hseen, ih]
        · simp [hother, hseen, ih, hne, Ne.symm hsame]

theorem numbers_firstOfNumber_nodup (seen : List Int32) (values : List EnumValueDescriptor) :
    ((firstOfNumber seen values).map EnumValueDescriptor.number).Nodup := by
  induction values generalizing seen with
  | nil => exact .nil
  | cons w values ih =>
      rw [firstOfNumber]
      split
      · exact ih seen
      · refine List.nodup_cons.mpr ⟨fun hmem => ?_, ih _⟩
        obtain ⟨v, hv, heq⟩ := List.mem_map.mp hmem
        refine ((mem_firstOfNumber_iff _ _ _).mp hv).1 ?_
        rw [heq]
        exact List.mem_cons_self

theorem onePerNumber_firstOfNumber (values : List EnumValueDescriptor) :
    OnePerNumber values (firstOfNumber [] values) where
  sublist := firstOfNumber_sublist [] values
  numbers := numbers_firstOfNumber_nodup [] values
  first v hv := ((mem_firstOfNumber_iff _ _ _).mp hv).2
  all v hv := by
    have hfound : (values.find? fun w => w.number == v.number).isSome = true :=
      List.find?_isSome.mpr ⟨v, hv, beq_self_eq_true _⟩
    obtain ⟨u, hu⟩ := Option.isSome_iff_exists.mp hfound
    have hnumber : u.number = v.number := by simpa using List.find?_some hu
    refine List.mem_map.mpr ⟨u, (mem_firstOfNumber_iff _ _ _).mpr ⟨by simp, ?_⟩, hnumber⟩
    rwa [hnumber]

/-- The variant for a value of the enumeration. -/
structure IsVariantOf (e : EnumDescriptor) (value : EnumValueDescriptor) (v : EnumVariant) :
    Prop where
  name_eq : v.name = variantName e.name value.name
  number_eq : v.number = value.number
  schemaName_eq : v.schemaName = value.name

namespace Context

variable {ctx : Context} {place : String} {e : EnumDescriptor}

theorem enumVariant_eq_ok {value : EnumValueDescriptor} {v : EnumVariant}
    (h : ctx.enumVariant place e value = .ok v) :
    isIdentifier value.name ∧ v = ⟨ctx.docs (placeIn place value.name),
      variantName e.name value.name, value.number, value.name⟩ := by
  obtain ⟨hcheck, h⟩ := (Outcome.then_eq_ok_iff _ _ _).mp h
  obtain ⟨name, hname, h⟩ := (Outcome.bind_eq_ok_iff _ _ _).mp h
  rw [Outcome.mapError_eq_ok_iff, identifier] at hname
  split at hname
  · obtain rfl := Except.ok.inj hname
    exact ⟨isIdentifier_of_named _ _ hcheck, (Except.ok.inj h).symm⟩
  · cases hname

theorem isVariantOf_of_enumVariant {value : EnumValueDescriptor} {v : EnumVariant}
    (h : ctx.enumVariant place e value = .ok v) : IsVariantOf e value v := by
  obtain ⟨-, rfl⟩ := enumVariant_eq_ok h
  exact ⟨rfl, rfl, rfl⟩

end Context

theorem map_eq_map_of_isVariantOf {e : EnumDescriptor} {kept : List EnumValueDescriptor}
    {variants : List EnumVariant} (h : List.Forall₂ (IsVariantOf e) kept variants) :
    variants.map EnumVariant.schemaName = kept.map EnumValueDescriptor.name ∧
      variants.map EnumVariant.name = kept.map fun v => variantName e.name v.name := by
  induction h with
  | nil => exact ⟨rfl, rfl⟩
  | cons hv _ ih => simp [hv.schemaName_eq, hv.name_eq, ih]

/-- If the names of the values are distinct, each of the variants, one for each number, is found by
its name, and it has a way to its name and back exactly if no two names that are kept are
converted to one identifier. -/
theorem variants_roundTrip_iff {ctx : Context} {place : String} {e : EnumDescriptor} {item : Item}
    (hnames : (e.values.map EnumValueDescriptor.name).Nodup)
    (h : ctx.enumItem place e = .ok item) :
    ∃ variants kept, item = .enum (ctx.docs place) (typeName e.name) variants ∧
      OnePerNumber e.values kept ∧ List.Forall₂ (IsVariantOf e) kept variants ∧
      (∀ v ∈ variants, EnumVariant.variant? variants v.schemaName = some v.name) ∧
      (EnumVariant.RoundTrips variants ↔
        (kept.map fun v => variantName e.name v.name).Nodup) := by
  obtain ⟨variants, rfl, -, hvariants⟩ := Context.enumItem_eq_ok h
  have hall : List.Forall₂ (IsVariantOf e) (firstOfNumber [] e.values) variants :=
    ((Outcome.mapM_eq_ok_iff _ _ _).mp hvariants).imp
      fun _ _ => Context.isVariantOf_of_enumVariant
  have hkept := onePerNumber_firstOfNumber e.values
  obtain ⟨hschema, hconverted⟩ := map_eq_map_of_isVariantOf hall
  have hapart : (variants.map EnumVariant.schemaName).Nodup := by
    rw [hschema]
    exact hnames.sublist (hkept.sublist.map _)
  refine ⟨variants, _, rfl, hkept, hall, ?_, ?_⟩
  · exact fun v hv => EnumVariant.lookup_map_of_nodup hapart hv
  · rw [EnumVariant.roundTrips_iff hapart, hconverted]

/-- A level that has two names. -/
def processingLevel : EnumDescriptor :=
  ⟨some "ProcessingLevel",
    [⟨some "PROCESSING_LEVEL_UNSPECIFIED", some 0, none⟩,
      ⟨some "PROCESSING_LEVEL_L1A", some 1, none⟩, ⟨some "RAW", some 1, none⟩,
      ⟨some "PROCESSING_LEVEL_2A", some 2, none⟩],
    some ⟨some true, none, []⟩, [], []⟩

def processingLevelVariants : List EnumVariant :=
  [⟨[], "Unspecified", 0, "PROCESSING_LEVEL_UNSPECIFIED"⟩, ⟨[], "L1a", 1, "PROCESSING_LEVEL_L1A"⟩,
    ⟨[], "ProcessingLevel2a", 2, "PROCESSING_LEVEL_2A"⟩]

/-- The second name of a level has no variant, and the others have ways forth and back. -/
theorem processingLevel_roundTrips :
    (processingLevel.values.map EnumValueDescriptor.name).Nodup ∧
      Context.enumItem ⟨"track.proto", .ofFiles [], .empty, Comments.ofFile .blank, .proto3⟩
        "ProcessingLevel" processingLevel =
          .ok (.enum [] "ProcessingLevel" processingLevelVariants) ∧
      EnumVariant.RoundTrips processingLevelVariants := by
  have hnames : (processingLevel.values.map EnumValueDescriptor.name).Nodup := by decide +kernel
  have hitem : Context.enumItem
      ⟨"track.proto", .ofFiles [], .empty, Comments.ofFile .blank, .proto3⟩ "ProcessingLevel"
        processingLevel = .ok (.enum [] "ProcessingLevel" processingLevelVariants) := rfl
  obtain ⟨variants, kept, heq, -, hall, -, hiff⟩ := variants_roundTrip_iff hnames hitem
  obtain ⟨-, -, rfl⟩ := Item.enum.inj heq
  refine ⟨hnames, hitem, hiff.mpr ?_⟩
  rw [← (map_eq_map_of_isVariantOf hall).2]
  decide +kernel

/-- Two bands, of which one has the name of the enumeration in front. -/
def bandFile : FileDescriptor :=
  { FileDescriptor.blank with
    name? := "track.proto"
    package? := "tracks"
    enums :=
      [⟨some "Band", [⟨some "BAND_A", some 0, none⟩, ⟨some "A", some 1, none⟩], none, [], []⟩]
    syntaxName? := "proto3" }

/-- Both bands become the variant `A`, and nobody objects. -/
theorem bands_collide :
    let q : GeneratorRequest := ⟨["track.proto"], none, [bandFile], none⟩
    let variants : List EnumVariant := [⟨[], "A", 0, "BAND_A"⟩, ⟨[], "A", 1, "A"⟩]
    validate q = .ok () ∧ (respond .empty q).error? = none ∧
      (∀ e ∈ bandFile.enums, (e.values.map EnumValueDescriptor.name).Nodup ∧
        ∀ v ∈ e.values, isIdentifier v.name = true) ∧
      fileItems bandFile (TypeIndex.ofFiles q.files) .empty = .ok [.enum [] "Band" variants] ∧
      ¬EnumVariant.RoundTrips variants := by
  intro q variants
  refine ⟨by decide +kernel, by decide +kernel, by decide +kernel, by rfl, ?_⟩
  intro h
  exact absurd h.apart (by decide)

end Generator

end Protogen
