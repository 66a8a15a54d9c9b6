import Protogen.Proofs.Generator.Forms
import Protogen.Proofs.Request.Entered

/-!
# Local types that are not there

Nothing is generated for a map entry that is nested in a message, nor for what lies in it.
Its name disappears only from fields that become maps; every other field, oneof or map value
that gives such a name is written with a path to an item that is not there. Apart from these
every path inside the file leads to the item of the type that is named.
-/

namespace Protogen

namespace Generator

open Descriptor Link Name Request Source

/-- The path is that of a map entry nested in a message, or goes through one. -/
def IsHidden (file : FileDescriptor) (path : List String) : Prop :=
  ∃ outer m n, EmittedAt file outer m ∧ n ∈ m.nested ∧ n.isMapEntry = true ∧
    outer ++ [m.name] ++ [n.name] <+: path

theorem IsHidden.mono {file : FileDescriptor} {path path' : List String} (h : IsHidden file path)
    (hbelow : path <+: path') : IsHidden file path' := by
  obtain ⟨outer, m, n, hm, hn, hentry, hpath⟩ := h
  exact ⟨outer, m, n, hm, hn, hentry, hpath.trans hbelow⟩

theorem not_hidden_singleton (file : FileDescriptor) (name : String) : ¬IsHidden file [name] := by
  rintro ⟨outer, m, n, -, -, -, hbelow⟩
  have hlength := hbelow.length_le
  simp at hlength

/-- A message below others that are emitted is emitted itself or hidden. -/
theorem emittedAt_or_hidden {file : FileDescriptor} {ms : List MessageDescriptor}
    {path : List String} {n : MessageDescriptor} (h : MessageAt ms path n) (outer : List String)
    (hms : ∀ m ∈ ms, EmittedAt file outer m ∨ IsHidden file (outer ++ [m.name])) :
    (∃ inner, path = inner ++ [n.name] ∧ EmittedAt file (outer ++ inner) n) ∨
      IsHidden file (outer ++ path) := by
  induction h generalizing outer with
  | here hm => exact (hms _ hm).imp_left fun hemitted => ⟨[], rfl, by simpa using hemitted⟩
  | @inside ms m n path hm _ ih =>
      rcases hms m hm with hemitted | hhidden
      · have hnested (n : MessageDescriptor) (hn : n ∈ m.nested) :
            EmittedAt file (outer ++ [m.name]) n ∨
              IsHidden file (outer ++ [m.name] ++ [n.name]) := by
          cases hentry : n.isMapEntry with
          | true => exact .inr ⟨outer, m, n, hemitted, hn, hentry, List.prefix_refl _⟩
          | false => exact .inl (hemitted.nested hn hentry)
        rcases ih (outer ++ [m.name]) hnested with ⟨inner, rfl, hn⟩ | hhidden
        · exact .inl ⟨m.name :: inner, rfl, by simpa using hn⟩
        · exact .inr (by simpa using hhidden)
      · refine .inr (hhidden.mono ⟨path, ?_⟩)
        simp

section

variable {files : List FileDescriptor} (hlink : link files = .ok ()) {file : FileDescriptor}
  (hfile : file ∈ files)

include hlink hfile

/-- In files that link, nothing that is emitted has the path of a nested map entry. -/
theorem EmittedAt.not_hidden {outer : List String} {m : MessageDescriptor}
    (h : EmittedAt file outer m) : ¬IsHidden file (outer ++ [m.name]) := by
  induction h with
  | top _ => exact not_hidden_singleton file _
  | @nested outer m n hm hn hplain ih =>
      rintro ⟨outer', m', n', hm', hn', hentry, hbelow⟩
      rcases List.prefix_concat_iff.mp hbelow with heq | hbelow
      · have hentryAt := hm'.messageAt.nested hn'
        rw [heq] at hentryAt
        have hbody := body_eq_of_messageAt hlink hfile (hm.messageAt.nested hn) hentryAt
        rw [MessageDescriptor.isMapEntry, hbody, ← MessageDescriptor.isMapEntry, hentry] at hplain
        simp at hplain
      · exact ih ⟨outer', m', n', hm', hn', hentry, hbelow⟩

/-- The types of a file that are declared are those that are not hidden. -/
theorem exists_declared_iff_not_hidden {t : String × TypeInfo} (ht : t ∈ fileIndex file) :
    (∃ d ∈ declaredByFile file, d.typePath? = some t.2.path) ↔ ¬IsHidden file t.2.path := by
  constructor
  · rintro ⟨d, hd, hpath⟩
    rcases (mem_declaredByFile_iff _ _).mp hd with ⟨outer, m, hm, hof⟩ | ⟨e, -, rfl⟩
    · cases hof with
      | message =>
          rw [← Option.some.inj hpath]
          exact hm.not_hidden hlink hfile
      | oneof hp => simp [Declared.typePath?] at hpath
      | @enum e he =>
          rw [← Option.some.inj hpath]
          rintro ⟨outer', m', n', hm', hn', hentry, hbelow⟩
          rcases List.prefix_concat_iff.mp hbelow with heq | hbelow
          · have hentryAt := hm'.messageAt.nested hn'
            rw [heq] at hentryAt
            exact not_messageAt_of_enum hlink hfile hm.messageAt he hentryAt
          · exact hm.not_hidden hlink hfile ⟨outer', m', n', hm', hn', hentry, hbelow⟩
    · rw [← Option.some.inj hpath]
      exact not_hidden_singleton file _
  · intro hnot
    rcases (mem_fileIndex_iff file t).mp ht with ⟨path, m, hm, henters⟩ | ⟨e, he, rfl⟩
    · rcases emittedAt_or_hidden hm [] fun m hm => .inl (.top hm) with
        ⟨inner, rfl, hemitted⟩ | hhidden
      · rcases henters with rfl | ⟨e, he, rfl⟩
        · exact ⟨.message inner m.body, (mem_declaredByFile_iff _ _).mpr (.inl ⟨inner, m, hemitted,
            .message⟩), rfl⟩
        · exact ⟨.enum (inner ++ [m.name]) e, (mem_declaredByFile_iff _ _).mpr (.inl ⟨inner, m,
            hemitted, .enum he⟩), rfl⟩
      · rcases henters with rfl | ⟨e, he, rfl⟩
        · exact absurd hhidden hnot
        · exact absurd (hhidden.mono (List.prefix_append _ _)) hnot
    · exact ⟨.enum [] e, (mem_declaredByFile_iff _ _).mpr (.inr ⟨e, he, rfl⟩), rfl⟩

end

/-- Every path inside the file that is written for a field leads to the item that is
generated for the type found under the name of the field. -/
def LocalTypesGenerated (ctx : Context) (file : FileDescriptor) (items : List Item) : Prop :=
  ∀ outer m above f form, WrittenAs file items outer m above f form →
    ∀ g element, ElementFor ctx f form g element →
      ∀ supers modules item, element.reference? = some (.inFile supers modules item) →
        ∃ info modules' name, ctx.types.find? g.typeName = some info ∧
          follow above (Reference.steps supers modules item) = some (modules', name) ∧
          GeneratedAs file items info.path modules' name

/-- No type that is written out for a field of an emitted message is a hidden one of the
file. -/
def NoneHidden (ctx : Context) (file : FileDescriptor) : Prop :=
  ∀ outer m, EmittedAt file outer m → ∀ f ∈ m.body.fields, ∀ g, Spells ctx f g →
    HasNamedType g → ∀ info, ctx.types.find? g.typeName = some info → info.file = file.name →
      ¬IsHidden file info.path

section

variable {files : List FileDescriptor} (hnames : (files.map FileDescriptor.name).Nodup)
  (hlink : link files = .ok ()) {file : FileDescriptor} (hfile : file ∈ files)

include hnames hfile

omit hlink in
/-- What is found in a file is an entry of that file. -/
theorem mem_fileIndex_of_find? {name : String} {info : TypeInfo}
    (hinfo : (TypeIndex.ofFiles files).find? name = some info) (hlocal : info.file = file.name) :
    (name, info) ∈ fileIndex file := by
  obtain ⟨other, hother, hmem⟩ :=
    (TypeIndex.mem_ofFiles_iff files _).mp (TypeIndex.mem_of_find? _ _ _ hinfo)
  obtain ⟨path, kind, mapFields?, -, heq⟩ := indexed_of_mem other _ hmem
  have hsame : other.name = file.name := by
    rw [← hlocal, (Prod.mk.inj heq).2]
  obtain rfl := List.inj_on_of_nodup_map hnames hother hfile hsame
  exact hmem

include hlink

theorem FileEmission.localTypesGenerated_iff {ctx : Context} (e : FileEmission ctx file)
    (htypes : ctx.types = TypeIndex.ofFiles files) (hname : ctx.fileName = file.name) :
    LocalTypesGenerated ctx file e.items ↔ NoneHidden ctx file := by
  constructor
  · intro hgenerated outer m hm f hf g hg hnamed info hinfo hlocal
    have hrange := oneofsInRange_of_link hlink hfile hm.messageAt
    obtain ⟨above, form, hwritten⟩ := e.exists_writtenAs hm hrange hf
    obtain ⟨-, -, hconverted⟩ := e.convertedTo_of_writtenAs hwritten
    obtain ⟨element, helement⟩ := hconverted.exists_elementFor hg
    obtain ⟨-, htyped⟩ := hconverted.typedAs_of_elementFor helement
    obtain ⟨reference, hreference, href⟩ := htyped.exists_reference hnamed
    have hinFile := Context.reference_inFile hinfo (hlocal.trans hname.symm) above.length
    obtain rfl := Except.ok.inj (hinFile.symm.trans href)
    obtain ⟨info', modules, name, hinfo', -, d, item, hmem, hpath, -⟩ :=
      hgenerated _ _ _ _ _ hwritten _ _ helement _ _ _ hreference
    obtain rfl := Option.some.inj (hinfo.symm.trans hinfo')
    rw [htypes] at hinfo
    have hentry := mem_fileIndex_of_find? hnames hfile hinfo hlocal
    exact (exists_declared_iff_not_hidden hlink hfile hentry).mp
      ⟨d, (List.of_mem_zip hmem).1, hpath⟩
  · intro hnone outer m above f form hwritten g element helement supers modules item hreference
    obtain ⟨⟨n, hn, rfl⟩, hf, hconverted⟩ := e.convertedTo_of_writtenAs hwritten
    obtain ⟨hg, htyped⟩ := hconverted.typedAs_of_elementFor helement
    obtain ⟨hnamed, href⟩ := htyped.of_reference hreference
    obtain ⟨info, hinfo, hlocal⟩ := Context.find?_of_inFile href
    have hinFile := Context.reference_inFile hinfo hlocal above.length
    obtain ⟨rfl, rfl, rfl⟩ := Reference.inFile.inj (Except.ok.inj (href.symm.trans hinFile))
    rw [hname] at hlocal
    have hfound := hinfo
    rw [htypes] at hfound
    have hentry := mem_fileIndex_of_find? hnames hfile hfound hlocal
    obtain ⟨d, hd, hpath⟩ := (exists_declared_iff_not_hidden hlink hfile hentry).mpr
      (hnone outer n hn f hf g hg hnamed info hinfo hlocal)
    obtain ⟨modules, name, hgenerated⟩ := e.exists_generatedAs hd hpath
    refine ⟨info, modules, name, hinfo, ?_, hgenerated⟩
    obtain ⟨-, ⟨outer', last, hpath', rfl, rfl⟩, -⟩ := e.generatedAs_spec hgenerated
    have hmodules : ∀ s ∈ outer'.map moduleName, s ≠ "super" :=
      List.forall_mem_map.mpr fun s _ => moduleName_ne_super s
    simp only at hpath'
    rw [hpath', modulesOf_append_singleton, List.getLast?_concat, Option.getD_some]
    exact follow_steps above _ _ hmodules

end

/-- In the answer to an accepted request every element that is written is that of a field,
or of the value of one that becomes a map. The paths inside the file all lead to the items of
the types that are named exactly if none of these fields names a hidden type. -/
theorem local_types_generated_iff (q : GeneratorRequest) (hq : validate q = .ok ())
    (mapping : PathMapping) (hok : (respond mapping q).error? = none) (file : FileDescriptor)
    (hasked : IsAskedFor q file) :
    ∃ edition items, Edition.ofName? file.syntaxName = some edition ∧
      fileItems file (TypeIndex.ofFiles q.files) mapping = .ok items ∧
      ⟨some (outputFile file.name), none, some (renderFile file.name items), none⟩ ∈
        (respond mapping q).files ∧
      let ctx := contextOf file (TypeIndex.ofFiles q.files) mapping edition
      (∀ above element, Writes items above element → ∃ outer m f form g,
        WrittenAs file items outer m above f form ∧ ElementFor ctx f form g element) ∧
      (LocalTypesGenerated ctx file items ↔ NoneHidden ctx file) := by
  obtain ⟨-, hnames, -, -, -, hlink⟩ := (validate_eq_ok_iff q).mp hq
  obtain ⟨edition, e, hedition, hitems, hanswer⟩ := exists_emission_of_asked hok hasked
  have hfile := hasked.mem
  exact ⟨edition, e.items, hedition, hitems, hanswer,
    fun above element => e.exists_elementFor_of_writes,
    e.localTypesGenerated_iff hnames hlink hfile rfl rfl⟩

/-- A field that names the entry for the points of a track. -/
def entryField (label : Label) : FieldDescriptor :=
  { FieldDescriptor.blank with
    name? := some "points"
    number? := some 1
    label? := some label.toNumber
    type? := some DeclaredType.message.toNumber
    typeName? := some ".tracks.Track.PointsEntry" }

/-- A track with such a field. The key and the value of the entry are texts. -/
def entryTrack (label : Label) : MessageDescriptor :=
  let text (name : String) (number : Int32) : FieldDescriptor :=
    { FieldDescriptor.blank with
      name? := some name
      number? := some number
      label? := some Label.optional.toNumber
      type? := some (DeclaredType.scalar .string).toNumber }
  ⟨{ MessageBody.blank with name? := some "Track", fields := [entryField label] },
    [⟨{ MessageBody.blank with
        name? := some "PointsEntry"
        fields := [text "key" 1, text "value" 2]
        options? := some ⟨none, none, none, some true, []⟩ }, []⟩]⟩

def entryTrackFile (label : Label) : FileDescriptor :=
  { FileDescriptor.blank with
    name? := some "track.proto"
    package? := some "tracks"
    syntaxName? := some "proto3"
    messages := [entryTrack label] }

theorem emittedAt_entryTrackFile {label : Label} {outer : List String} {m : MessageDescriptor}
    (h : EmittedAt (entryTrackFile label) outer m) : m = entryTrack label := by
  induction h with
  | top hm => exact List.mem_singleton.mp hm
  | nested _ hn hplain ih =>
      rw [ih] at hn
      obtain rfl := List.mem_singleton.mp hn
      exact absurd hplain (by decide)

/-- If the field is repeated it becomes a map, and every path leads to its item. -/
theorem repeated_entry_unnamed :
    let file := entryTrackFile .repeated
    let q : GeneratorRequest := ⟨["track.proto"], none, [file], none⟩
    validate q = .ok () ∧ (respond .empty q).error? = none ∧
      ∃ edition items, fileItems file (TypeIndex.ofFiles [file]) .empty = .ok items ∧
        LocalTypesGenerated (contextOf file (TypeIndex.ofFiles [file]) .empty edition) file
          items := by
  intro file q
  have hvalid : validate q = .ok () := by decide +kernel
  have hok : (respond .empty q).error? = none := by decide +kernel
  have hasked : IsAskedFor q file := ⟨"track.proto", List.mem_singleton_self _, rfl⟩
  obtain ⟨edition, items, -, hitems, -, -, hgenerated⟩ :=
    local_types_generated_iff q hvalid .empty hok file hasked
  refine ⟨hvalid, hok, edition, items, hitems, hgenerated.mpr ?_⟩
  intro outer m hm f hf g hg hnamed
  rw [emittedAt_entryTrackFile hm] at hf
  obtain rfl := List.mem_singleton.mp hf
  have hmap : ((contextOf file (TypeIndex.ofFiles [file]) .empty edition).mapFields?
      (entryField .repeated)).map (fun p => p.2.type) = some (.scalar .string) := by
    cases edition with
    | proto2 | proto3 | editions => decide +kernel
  cases hg with
  | self hself =>
      have hone : (entryField .repeated).isOneofMember = false := rfl
      rw [hself.resolve_left (by simp [hone])] at hmap
      simp at hmap
  | value _ hfields =>
      rw [hfields] at hmap
      exact absurd (Option.some.inj hmap) (hnamed.not_scalar _)

theorem reference?_entryField {ctx : Context} {depth : Nat} {element : Element}
    (htypes : ctx.types = TypeIndex.ofFiles [entryTrackFile .optional])
    (hname : ctx.fileName = "track.proto")
    (h : ctx.element (entryField .optional) depth = .ok element) :
    element.reference? = some (.inFile depth ["track"] "PointsEntry") := by
  have hnamed : HasNamedType (entryField .optional) := .inl (by decide)
  have hfound : ((TypeIndex.ofFiles [entryTrackFile .optional]).find?
      (entryField .optional).typeName).map (fun info => (info.file, info.path)) =
        some ("track.proto", ["Track", "PointsEntry"]) := by decide +kernel
  obtain ⟨info, hinfo, heq⟩ := Option.map_eq_some_iff.mp hfound
  obtain ⟨hlocal, hpath⟩ := Prod.mk.inj heq
  rw [← htypes] at hinfo
  obtain ⟨reference, hreference, href⟩ := (Context.typedAs_of_element h).exists_reference hnamed
  have hinFile := Context.reference_inFile hinfo (hlocal.trans hname.symm) depth
  have hmodules : modulesOf ["Track", "PointsEntry"] = ["track"] := by decide +kernel
  have hitem : typeName "PointsEntry" = "PointsEntry" := by decide +kernel
  have hlast : (["Track", "PointsEntry"] : List String).getLast?.getD "" = "PointsEntry" := rfl
  rw [hpath, hmodules, hlast, hitem] at hinFile
  rw [hreference, Except.ok.inj (href.symm.trans hinFile)]

/-- A single field of the type of the entry is written with the path of an item that is
nowhere in the file. -/
theorem single_entry_missing :
    let file := entryTrackFile .optional
    let q : GeneratorRequest := ⟨["track.proto"], none, [file], none⟩
    validate q = .ok () ∧ (respond .empty q).error? = none ∧
      ∃ items above element, fileItems file (TypeIndex.ofFiles [file]) .empty = .ok items ∧
        WrittenAs file items [] (entryTrack .optional).body above (entryField .optional)
          (.elements element) ∧
        element.reference? = some (.inFile above.length ["track"] "PointsEntry") ∧
        ∀ modules item, Within items modules item → item.typeName? ≠ some "PointsEntry" := by
  intro file q
  have hvalid : validate q = .ok () := by decide +kernel
  have hok : (respond .empty q).error? = none := by decide +kernel
  obtain ⟨edition, e, -, hitems, -⟩ := exists_emission_of_asked hok
    (⟨"track.proto", List.mem_singleton_self _, rfl⟩ : IsAskedFor q file)
  obtain ⟨above, form, hwritten⟩ := e.exists_writtenAs (.top List.mem_cons_self)
    (by decide : OneofsInRange (entryTrack .optional).body) List.mem_cons_self
  obtain ⟨-, -, hconverted⟩ := e.convertedTo_of_writtenAs hwritten
  cases hconverted with
  | map _ hmap _ _ =>
      rw [Context.mapFields?, if_neg (by decide)] at hmap
      simp at hmap
  | @elements element _ helement =>
      refine ⟨hvalid, hok, e.items, above, element, hitems, hwritten,
        reference?_entryField rfl rfl helement, fun modules item hwithin hname => ?_⟩
      have hitem : ¬item.IsModule := by
        rintro ⟨docs, name, inner, rfl⟩
        simp [Item.typeName?] at hname
      have hdeclared : declaredByFile file = [.message [] (entryTrack .optional).body] := rfl
      obtain ⟨d, hd, hyields⟩ := e.exists_declared_of_within hwithin hitem
      rw [hdeclared] at hd
      obtain rfl := List.mem_singleton.mp hd
      obtain _ | _ | _ := hyields
      exact absurd (Option.some.inj hname) (by decide +kernel)

end Generator

end Protogen
