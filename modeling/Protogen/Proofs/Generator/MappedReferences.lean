import Protogen.Proofs.Generator.Forms
import Protogen.Proofs.Generator.MappedPaths

/-!
# Mapped paths that are types

A type of another file is referred to by whatever text its name is mapped to. Where a message is
referred to the text is read as a type, so nothing is generated if it is none. Where an
enumeration is referred to the text goes into an attribute as it is: whether it is a type is
decided by the mapping alone.
-/

namespace Protogen

namespace Generator

open Descriptor Source

/-- The text is that of a type. -/
def ReadsAsType (text : String) : Prop := ∃ type, TypeExpr.parse text = .ok type

/-- The name is that of a type of another file, and it is mapped to the path. -/
def IsMappedTo (ctx : Context) (name path : String) : Prop :=
  ∃ info, ctx.types.find? name = some info ∧ info.file ≠ ctx.fileName ∧
    ctx.mapping.resolve? name = some path

/-- Something is generated for the field of the message: a member of the structure, or a variant
of one of the oneofs. -/
def IsSpelledOut (m : MessageBody) (f : FieldDescriptor) : Prop :=
  f ∈ plainFields m ∨ ∃ p ∈ spelledOneofs m, f ∈ oneofMembers m p.2

/-- A field of the file, or a map with such values, is of this type and names something that is
mapped to the path. -/
def RefersOut (ctx : Context) (file : FileDescriptor) (type : DeclaredType) (path : String) :
    Prop :=
  ∃ outer m f g, EmittedAt file outer m ∧ IsSpelledOut m.body f ∧ Spells ctx f g ∧
    g.type = type ∧ IsMappedTo ctx g.typeName path

/-- The path is written in the items to refer to something outside of them. -/
def LeadsOut (items : List Item) (path : String) : Prop :=
  ∃ above element, Writes items above element ∧ element.reference? = some (.elsewhere path)

namespace Context

variable {ctx : Context} {depth : Nat}

theorem reference_eq_elsewhere_iff {name path : String} :
    ctx.reference name depth = .ok (.elsewhere path) ↔ IsMappedTo ctx name path := by
  constructor
  · intro h
    obtain ⟨info, hinfo, ⟨-, heq⟩ | ⟨hfile, _, hpath, heq⟩⟩ := reference_eq_ok h
    · simp at heq
    · obtain rfl := Reference.elsewhere.inj heq
      exact ⟨info, hinfo, hfile, hpath⟩
  · rintro ⟨info, hinfo, hfile, hpath⟩
    exact reference_elsewhere hinfo hfile hpath depth

/-- The path of a message is read before it is written. -/
theorem readsAsType_of_messageElement {name path : String} {element : Element}
    (h : ctx.messageElement name depth = .ok element) (hmapped : IsMappedTo ctx name path) :
    ReadsAsType path := by
  obtain ⟨reference, type, hreference, htype, -⟩ := messageElement_eq_ok h
  obtain rfl := Except.ok.inj ((reference_eq_elsewhere_iff.mpr hmapped).symm.trans hreference)
  exact ⟨type, htype⟩

end Context

theorem ConvertedTo.messageElement_of_elementFor {ctx : Context} {depth : Nat}
    {f g : FieldDescriptor} {form : Form} {element : Element} (h : ConvertedTo ctx depth f form)
    (hg : ElementFor ctx f form g element) (hmessage : g.type = .message) :
    ctx.messageElement g.typeName depth = .ok element := by
  cases h with
  | elements _ helement =>
      obtain _ | _ := hg
      obtain ⟨_, htype, -⟩ | ⟨-, -, hok⟩ | ⟨htype, -⟩ := Context.element_eq_ok helement
      · simp [hmessage] at htype
      · exact hok
      · simp [hmessage] at htype
  | map _ hmap _ hvalue =>
      obtain _ | hmap' := hg
      obtain ⟨rfl, rfl⟩ := Prod.mk.inj (Option.some.inj (hmap.symm.trans hmap'))
      obtain ⟨_, htype, -⟩ | ⟨-, hok⟩ | ⟨htype, -⟩ := Context.mapValue_eq_ok hvalue
      · simp [hmessage] at htype
      · exact hok
      · simp [hmessage] at htype

theorem WrittenAs.isSpelledOut {file : FileDescriptor} {items : List Item}
    {outer above : List String} {m : MessageBody} {f : FieldDescriptor} {form : Form}
    (h : WrittenAs file items outer m above f form) : IsSpelledOut m f := by
  cases h with
  | member _ hfield _ => exact .inl (List.of_mem_zip hfield).1
  | variant hmem hvariant =>
      refine .inr ?_
      rcases (mem_declaredByFile_iff _ _).mp (List.of_mem_zip hmem).1 with
        ⟨_, n, -, hof⟩ | ⟨_, -, heq⟩
      · cases hof with
        | oneof hp => exact ⟨_, hp, (List.of_mem_zip hvariant).1⟩
      · simp at heq

/-- What is written for a field is written in the module that it is written in. -/
theorem WrittenAs.writes {ctx : Context} {file : FileDescriptor} {items : List Item}
    {outer above : List String} {m : MessageBody} {f g : FieldDescriptor} {form : Form}
    {element : Element} (h : WrittenAs file items outer m above f form)
    (hg : ElementFor ctx f form g element) : Writes items above element := by
  have hwithin {d : Declared} {item : Item}
      (hmem : (d, above, item) ∈ (declaredByFile file).zip (contentsOf [] items)) :
      Within items above item := by
    obtain ⟨_, rfl, hitem, -⟩ := (mem_contentsOf_iff _ _ _ _).mp (List.of_mem_zip hmem).2
    exact hitem
  cases h with
  | @member _ _ _ _ _ member _ hmem hfield hform =>
      have hmember := (List.of_mem_zip hfield).2
      cases member with
      | field =>
          obtain rfl := Option.some.inj hform
          obtain _ | _ := hg
          exact .field (hwithin hmem) hmember
      | map =>
          obtain rfl := Option.some.inj hform
          obtain _ | _ := hg
          exact .mapValue (hwithin hmem) hmember
      | oneof => simp [Member.form?] at hform
  | variant hmem hvariant =>
      obtain _ | _ := hg
      exact .variant (hwithin hmem) (List.of_mem_zip hvariant).2

namespace FileEmission

variable {ctx : Context} {file : FileDescriptor}

theorem exists_writtenAs_of_isSpelledOut (e : FileEmission ctx file) {outer : List String}
    {m : MessageDescriptor} (hm : EmittedAt file outer m) {f : FieldDescriptor}
    (hf : IsSpelledOut m.body f) :
    ∃ above form, WrittenAs file e.items outer m.body above f form := by
  rcases hf with hf | ⟨p, hp, hf⟩
  · exact e.exists_writtenAs_of_plain hm hf
  · obtain ⟨above, element, hwritten⟩ := e.exists_writtenAs_of_oneof hm hp hf
    exact ⟨above, _, hwritten⟩

/-- What a field is mapped to is written, and for a message it is read before. -/
theorem leadsOut_of_refersOut (e : FileEmission ctx file) {type : DeclaredType}
    {path : String} (h : RefersOut ctx file type path) (hnamed : type = .message ∨ type = .enum) :
    LeadsOut e.items path ∧ (type = .message → ReadsAsType path) := by
  obtain ⟨outer, m, f, g, hm, hf, hspells, rfl, hmapped⟩ := h
  obtain ⟨above, form, hwritten⟩ := e.exists_writtenAs_of_isSpelledOut hm hf
  obtain ⟨-, -, hconverted⟩ := e.convertedTo_of_writtenAs hwritten
  obtain ⟨element, hg⟩ := hconverted.exists_elementFor hspells
  obtain ⟨-, htyped⟩ := hconverted.typedAs_of_elementFor hg
  obtain ⟨reference, href, hreference⟩ := htyped.exists_reference hnamed
  obtain rfl :=
    Except.ok.inj (hreference.symm.trans (Context.reference_eq_elsewhere_iff.mpr hmapped))
  exact ⟨⟨above, element, hwritten.writes hg, href⟩, fun hmessage =>
    Context.readsAsType_of_messageElement (hconverted.messageElement_of_elementFor hg hmessage)
      hmapped⟩

/-- The paths that lead out of a file are those that the types of its fields are mapped to. -/
theorem leadsOut_iff (e : FileEmission ctx file) (path : String) :
    LeadsOut e.items path ↔ RefersOut ctx file .message path ∨ RefersOut ctx file .enum path := by
  constructor
  · rintro ⟨above, element, hwrites, href⟩
    obtain ⟨outer, m, f, form, g, hwritten, hg⟩ := e.exists_elementFor_of_writes hwrites
    obtain ⟨⟨n, hn, rfl⟩, -, hconverted⟩ := e.convertedTo_of_writtenAs hwritten
    obtain ⟨hspells, htyped⟩ := hconverted.typedAs_of_elementFor hg
    obtain ⟨hnamed, hreference⟩ := htyped.of_reference href
    have hmapped := Context.reference_eq_elsewhere_iff.mp hreference
    have hrefers {type : DeclaredType} (htype : g.type = type) : RefersOut ctx file type path :=
      ⟨outer, n, f, g, hn, hwritten.isSpelledOut, hspells, htype, hmapped⟩
    exact hnamed.imp hrefers hrefers
  · rintro (h | h)
    · exact (e.leadsOut_of_refersOut h (.inl rfl)).1
    · exact (e.leadsOut_of_refersOut h (.inr rfl)).1

theorem readsAsType_of_refersOut_message (e : FileEmission ctx file) {path : String}
    (h : RefersOut ctx file .message path) : ReadsAsType path :=
  (e.leadsOut_of_refersOut h (.inl rfl)).2 rfl

theorem leadsOut_reads_iff (e : FileEmission ctx file) :
    (∀ path, LeadsOut e.items path → ReadsAsType path) ↔
      ∀ path, RefersOut ctx file .enum path → ReadsAsType path := by
  constructor
  · exact fun hall path hpath => hall path ((e.leadsOut_iff path).mpr (.inr hpath))
  · intro henums path hpath
    rcases (e.leadsOut_iff path).mp hpath with hmessage | henum
    · exact e.readsAsType_of_refersOut_message hmessage
    · exact henums path henum

end FileEmission

/-- If a text is generated for a file, the paths in it that lead out of the file are those that
the types of its fields are mapped to. All paths of messages are types: where one is not, there
is no text. All paths are types exactly if those of enumerations are, whose mapping nothing else
decides about. -/
theorem mapped_paths_read_iff (file : FileDescriptor) (types : TypeIndex)
    (mapping : PathMapping) (text : String) (h : fileText file types mapping = .ok text) :
    ∃ edition items, Edition.ofName? file.syntaxName = some edition ∧
      fileItems file types mapping = .ok items ∧ text = renderFile file.name items ∧
      let ctx := contextOf file types mapping edition
      (∀ path, LeadsOut items path ↔
        RefersOut ctx file .message path ∨ RefersOut ctx file .enum path) ∧
      (∀ path, RefersOut ctx file .message path → ReadsAsType path) ∧
      ((∀ path, LeadsOut items path → ReadsAsType path) ↔
        ∀ path, RefersOut ctx file .enum path → ReadsAsType path) := by
  obtain ⟨edition, e, hedition, hitems, htext⟩ := fileText_eq_ok h
  exact ⟨edition, e.items, hedition, hitems, htext, e.leadsOut_iff,
    fun path => e.readsAsType_of_refersOut_message, e.leadsOut_reads_iff⟩

/-- What a track has from its album, declared to be of this type. -/
def fromAlbumField (declared : Int32) (typeName : String) : FieldDescriptor :=
  { FieldDescriptor.blank with
    name? := "album"
    number? := some 1
    label? := some 1
    type? := declared
    typeName? := typeName }

def fromAlbumTrack (declared : Int32) (typeName : String) : MessageDescriptor :=
  ⟨{ MessageBody.blank with name? := "Track", fields := [fromAlbumField declared typeName] }, []⟩

def fromAlbumFile (declared : Int32) (typeName : String) : FileDescriptor :=
  { FileDescriptor.blank with
    name? := "track.proto"
    package? := "tracks"
    dependencies := ["album.proto"]
    messages := [fromAlbumTrack declared typeName]
    syntaxName? := "proto3" }

/-- An album has a cover and a kind. -/
def coveredAlbumFile : FileDescriptor :=
  { FileDescriptor.blank with
    name? := "album.proto"
    package? := "albums"
    messages := [⟨{ MessageBody.blank with name? := "Cover" }, []⟩]
    enums := [⟨"Kind", [⟨"LIVE", some 0, none⟩], none, [], []⟩]
    syntaxName? := "proto3" }

theorem emittedAt_fromAlbumFile {declared : Int32} {typeName : String} {outer : List String}
    {m : MessageDescriptor} (h : EmittedAt (fromAlbumFile declared typeName) outer m) :
    m = fromAlbumTrack declared typeName := by
  induction h with
  | top hm => exact List.mem_singleton.mp hm
  | nested _ hn _ ih =>
      subst ih
      simp [fromAlbumTrack] at hn

/-- The only path out of the file of the track is that of the kind. -/
theorem refersOut_albumKind_iff (mapping : PathMapping) (edition : Edition) (type : DeclaredType)
    (path : String) :
    let file := fromAlbumFile 14 ".albums.Kind"
    let ctx := contextOf file (TypeIndex.ofFiles [file, coveredAlbumFile]) mapping edition
    RefersOut ctx file type path ↔ type = .enum ∧ mapping.resolve? ".albums.Kind" = some path := by
  intro file ctx
  constructor
  · rintro ⟨outer, m, f, g, hm, hf, hspells, rfl, -, -, -, hpath⟩
    obtain rfl := emittedAt_fromAlbumFile hm
    have hfield : f = fromAlbumField 14 ".albums.Kind" := by
      rcases hf with hf | ⟨p, hp, -⟩
      · exact List.mem_singleton.mp hf
      · simp [fromAlbumTrack, spelledOneofs, MessageBody.blank] at hp
    subst hfield
    cases hspells with
    | self => exact ⟨rfl, hpath⟩
    | value _ hmap =>
        obtain ⟨hrepeated, -⟩ := Context.mapFields?_eq_some hmap
        exact absurd hrepeated (by decide)
  · rintro ⟨rfl, hpath⟩
    have hkind : ctx.types.find? ".albums.Kind" =
        some ⟨"album.proto", "albums", ["Kind"], .enum, none⟩ := by
      change (TypeIndex.ofFiles [file, coveredAlbumFile]).find? _ = _
      decide +kernel
    have hfile : coveredAlbumFile.name ≠ file.name := by decide
    exact ⟨[], fromAlbumTrack 14 ".albums.Kind", _, _, .top (.head _), .inl (.head _),
      .self (.inr rfl), rfl, _, hkind, hfile, hpath⟩

/-- With the albums in a module of the crate the kind of the album is referred to by a type. -/
theorem album_kind_path_reads :
    let file := fromAlbumFile 14 ".albums.Kind"
    let types := TypeIndex.ofFiles [file, coveredAlbumFile]
    let mapping := PathMapping.empty.insert ".albums" "crate::albums"
    ∃ text items, fileText file types mapping = .ok text ∧
      text = renderFile "track.proto" items ∧ LeadsOut items "crate::albums::Kind" ∧
      ∀ path, LeadsOut items path → ReadsAsType path := by
  intro file types mapping
  have hok : (fileText file types mapping).isOk = true := by decide +kernel
  obtain ⟨text, htext⟩ := Outcome.exists_of_isOk hok
  obtain ⟨edition, items, -, -, hrender, hleads, -, hreads⟩ :=
    mapped_paths_read_iff file types mapping text htext
  have hresolve : mapping.resolve? ".albums.Kind" = some "crate::albums::Kind" := by decide +kernel
  have hparse : (TypeExpr.parse "crate::albums::Kind").isOk = true := by decide +kernel
  refine ⟨text, items, htext, hrender, ?_, hreads.mpr fun path hpath => ?_⟩
  · exact (hleads _).mpr (.inr ((refersOut_albumKind_iff _ _ _ _).mpr ⟨rfl, hresolve⟩))
  · obtain ⟨-, hpath⟩ := (refersOut_albumKind_iff _ _ _ _).mp hpath
    obtain rfl := Option.some.inj (hresolve.symm.trans hpath)
    exact Outcome.exists_of_isOk hparse

/-- Where the colons of the path are forgotten it is no type. The cover of the album is refused,
its kind is not. -/
theorem album_kind_path_unread :
    let file := fromAlbumFile 14 ".albums.Kind"
    let mapping := PathMapping.empty.insert ".albums" "crate albums"
    let kind : GeneratorRequest := ⟨["track.proto"], none, [file, coveredAlbumFile], none⟩
    let cover : GeneratorRequest :=
      ⟨["track.proto"], none, [fromAlbumFile 11 ".albums.Cover", coveredAlbumFile], none⟩
    Request.validate cover = .ok () ∧
      (respond mapping cover).error? =
        some ("invalid Rust path " ++ Text.quoted "crate albums::Cover" ++ ": unexpected token") ∧
      Request.validate kind = .ok () ∧ (respond mapping kind).error? = none ∧
      ∃ items, fileItems file (TypeIndex.ofFiles kind.files) mapping = .ok items ∧
        LeadsOut items "crate albums::Kind" ∧ ¬ReadsAsType "crate albums::Kind" := by
  intro file mapping kind cover
  have hok : (fileText file (TypeIndex.ofFiles kind.files) mapping).isOk = true := by
    decide +kernel
  obtain ⟨text, htext⟩ := Outcome.exists_of_isOk hok
  obtain ⟨edition, e, -, hitems, -⟩ := fileText_eq_ok htext
  have hresolve : mapping.resolve? ".albums.Kind" = some "crate albums::Kind" := by decide +kernel
  have hout : LeadsOut e.items "crate albums::Kind" :=
    (e.leadsOut_iff _).mpr (.inr ((refersOut_albumKind_iff _ _ _ _).mpr ⟨rfl, hresolve⟩))
  have hparse : (TypeExpr.parse "crate albums::Kind").isOk = false := by decide +kernel
  refine ⟨by decide +kernel, by decide +kernel, by decide +kernel, by decide +kernel, e.items,
    hitems, hout, ?_⟩
  rintro ⟨type, htype⟩
  simp [htype, Except.isOk, Except.toBool] at hparse

end Generator

end Protogen
