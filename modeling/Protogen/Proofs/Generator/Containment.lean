import Protogen.Proofs.Generator.Census
import Protogen.Proofs.Name.Distinct
import Protogen.Proofs.Request.Linked
import Protogen.Proofs.Source.Containment

/-!
# Messages inside of messages

A message embeds another if one of its single fields, or one of the members of its oneofs,
is of that type. The structures that are generated for an accepted request hold each other
exactly as the messages of the request embed each other: every cycle among the messages
comes back as a structure that contains itself.
-/

namespace Protogen

namespace Generator

open Descriptor Name Request Source

/-- Where the type with the path stands in what is generated for its file. -/
def siteOf (file : String) (path : List String) : Site :=
  ⟨file, modulesOf path, typeName (path.getLast?.getD "")⟩

theorem siteOf_append (file : String) (outer : List String) (name : String) :
    siteOf file (outer ++ [name]) = ⟨file, outer.map moduleName, typeName name⟩ := by
  rw [siteOf, modulesOf_append_singleton, List.getLast?_concat, Option.getD_some]

/-- The file is what the request finds under one of the names that it asks for. -/
def IsAskedFor (q : GeneratorRequest) (file : FileDescriptor) : Prop :=
  ∃ name ∈ q.filesToGenerate, q.files.find? (fun f => f.name == name) = some file

theorem IsAskedFor.mem {q : GeneratorRequest} {file : FileDescriptor} (h : IsAskedFor q file) :
    file ∈ q.files := by
  obtain ⟨name, -, hfind⟩ := h
  exact List.mem_of_find?_eq_some hfind

/-- The items are generated for the file with the name. -/
def IsGenerated (q : GeneratorRequest) (mapping : PathMapping) (name : String)
    (items : List Item) : Prop :=
  ∃ file, IsAskedFor q file ∧ file.name = name ∧
    fileItems file (TypeIndex.ofFiles q.files) mapping = .ok items

/-- Where a type name leads that is given in a file: to a type of the same file, or to
what the mapped path stands for. -/
def destination? (types : TypeIndex) (mapping : PathMapping) (layout : String → Option Site)
    (file : String) (name : String) : Option Site :=
  (types.find? name).bind fun info =>
    if info.file = file then some (siteOf file info.path)
    else (mapping.resolve? name).bind layout

/-- The message at the first site has a single field, or a member of a oneof, of the type
at the second. -/
inductive Embeds (q : GeneratorRequest) (mapping : PathMapping) (layout : String → Option Site) :
    Site → Site → Prop
  | mk {file : FileDescriptor} {outer : List String} {m : MessageDescriptor}
      {f : FieldDescriptor} {site : Site} :
      IsAskedFor q file → EmittedAt file outer m → f ∈ m.body.fields → f.type = .message →
      (f.isOneofMember = true ∨ f.label ≠ .repeated) →
      destination? (TypeIndex.ofFiles q.files) mapping layout file.name f.typeName = some site →
      Embeds q mapping layout (siteOf file.name (outer ++ [m.name])) site

namespace Context

variable {ctx : Context} {layout : String → Option Site}

/-- A reference leads where its type name does, from wherever it is written. -/
theorem target?_of_reference {name : String} {above : List String} {reference : Reference}
    (h : ctx.reference name above.length = .ok reference) :
    reference.target? layout ctx.fileName above =
      destination? ctx.types ctx.mapping layout ctx.fileName name := by
  obtain ⟨info, hinfo, ⟨hfile, rfl⟩ | ⟨hfile, path, hpath, rfl⟩⟩ := reference_eq_ok h
  · have hsuper : ∀ s ∈ info.path.dropLast.map moduleName, s ≠ "super" :=
      List.forall_mem_map.mpr fun s _ => moduleName_ne_super s
    rw [destination?, hinfo, Option.bind_some, if_pos hfile, Reference.target?,
      follow_steps _ _ _ hsuper, Option.map_some, siteOf, modulesOf]
  · rw [destination?, hinfo, Option.bind_some, if_neg hfile, hpath, Option.bind_some,
      Reference.target?]

/-- The elements of message fields are the message elements, and lead where the type names
of the fields do. -/
theorem element_message (layout : String → Option Site) {f : FieldDescriptor}
    {above : List String} {depth : Nat} {element : Element} (hdepth : above.length = depth)
    (h : ctx.element f depth = .ok element) :
    (f.type = .message ∧ ∃ reference type, element = .message reference type ∧
      reference.target? layout ctx.fileName above =
        destination? ctx.types ctx.mapping layout ctx.fileName f.typeName) ∨
    (f.type ≠ .message ∧ ∀ reference type, element ≠ .message reference type) := by
  subst hdepth
  obtain ⟨type, htype, rfl⟩ | ⟨htype, -, h⟩ | ⟨htype, -, h⟩ := element_eq_ok h
  · exact .inr ⟨by simp [htype], by simp⟩
  · obtain ⟨reference, type, hreference, -, rfl⟩ := messageElement_eq_ok h
    exact .inl ⟨htype, reference, type, rfl, target?_of_reference hreference⟩
  · obtain ⟨reference, -, rfl⟩ := enumElement_eq_ok h
    exact .inr ⟨by simp [htype], by simp⟩

theorem isRepeated_cardinality (f : FieldDescriptor) :
    (ctx.cardinality f).isRepeated = true ↔ f.label = .repeated := by
  rw [cardinality]
  split
  · simp [Cardinality.isRepeated, *]
  · simp [Cardinality.isRepeated, *]
  · split
    all_goals simp [Cardinality.isRepeated, *]

end Context

/-- The way from a structure to its oneofs goes through the module of its message. -/
theorem follow_module (above : List String) (name item : String) :
    follow above [moduleName name, item] = some (above ++ [moduleName name], item) :=
  follow_down above [moduleName name] item
    (List.forall_mem_singleton.mpr (moduleName_ne_super name))

variable {q : GeneratorRequest} {mapping : PathMapping} {layout : String → Option Site}

/-- What a structure holds in a member of its own its message embeds. -/
theorem embeds_of_contains {site inner : Site}
    (h : Contains (IsGenerated q mapping) layout (.struct site) (.struct inner)) :
    Embeds q mapping layout site inner := by
  obtain ⟨⟨file, hasked, rfl, hitems⟩, hwithin, hmember, hsingle, htarget⟩ | _ | _ := h
  obtain ⟨edition, e, -, rfl⟩ := fileItems_eq_ok hitems
  obtain ⟨outer, m, place, fields, hm, -, rfl, rfl, rfl, hfields⟩ :=
    e.exists_message_of_struct hwithin
  rw [← siteOf_append]
  rcases List.mem_append.mp hmember with hmember | hmember
  · obtain ⟨f, hf, hok⟩ := Outcome.exists_left_of_forall₂ hfields _ hmember
    obtain ⟨-, ⟨-, element, helement, heq⟩ | ⟨_, _, _, _, -, -, -, heq⟩⟩ :=
      Context.member_eq_ok hok
    · obtain ⟨-, -, -, rfl, rfl⟩ := Member.field.inj heq
      have hlabel : f.label ≠ .repeated := by
        rw [ne_eq, ← Context.isRepeated_cardinality, hsingle]
        exact Bool.false_ne_true
      rcases Context.element_message layout (List.length_map _) helement with
        ⟨htype, _, _, heq, hleads⟩ | ⟨-, hne⟩
      · obtain ⟨rfl, rfl⟩ := Element.message.inj heq
        refine .mk hasked hm ((plainFields_sublist _).subset hf) htype (.inr hlabel) ?_
        exact hleads.symm.trans htarget
      · exact absurd rfl (hne _ _)
    · simp at heq
  · obtain ⟨p, -, heq⟩ := List.mem_map.mp hmember
    simp [oneofMember] at heq

/-- So does it with what the structure holds in its oneofs. The modules of two messages can
have one name, but then so have their structures. -/
theorem embeds_of_contains_oneof {site oneof inner : Site}
    (hout : Contains (IsGenerated q mapping) layout (.struct site) (.oneof oneof))
    (hin : Contains (IsGenerated q mapping) layout (.oneof oneof) (.struct inner)) :
    Embeds q mapping layout site inner := by
  obtain _ | ⟨⟨file, -, rfl, hitems⟩, hwithin, hmember, hfollow⟩ | _ := hout
  obtain ⟨edition, e, -, rfl⟩ := fileItems_eq_ok hitems
  obtain ⟨outer, m, place, fields, -, hname, rfl, rfl, rfl, hfields⟩ :=
    e.exists_message_of_struct hwithin
  rcases List.mem_append.mp hmember with hmember | hmember
  · obtain ⟨f, -, hok⟩ := Outcome.exists_left_of_forall₂ hfields _ hmember
    obtain ⟨-, ⟨-, _, -, heq⟩ | ⟨_, _, _, _, -, -, -, heq⟩⟩ := Context.member_eq_ok hok
    · simp at heq
    · simp at heq
  obtain ⟨p, -, heq⟩ := List.mem_map.mp hmember
  obtain ⟨-, -, rfl, rfl, -⟩ := Member.oneof.inj heq
  have hmodule := follow_module (outer.map moduleName) m.name (typeName p.1.name)
  obtain ⟨rfl, rfl⟩ := Prod.mk.inj (Option.some.inj (hmodule.symm.trans hfollow))
  obtain _ | _ | ⟨⟨file', hasked, hfile, hitems'⟩, hwithin', hv, helement, htarget⟩ := hin
  obtain ⟨edition', e', -, rfl⟩ := fileItems_eq_ok hitems'
  obtain ⟨outer', n, p', place', hn, -, habove, -, hvariants⟩ := e'.exists_message_of_oneof hwithin'
  obtain ⟨houter, hnames⟩ : outer.map moduleName = outer'.map moduleName ∧
      moduleName m.name = moduleName n.name := by
    rw [List.map_append, List.map_singleton] at habove
    exact List.append_singleton_inj.mp habove
  have htype := typeName_eq_of_moduleName_eq hname (e'.exists_struct_of_message hn).1 hnames
  obtain ⟨f, hf, hok⟩ := Outcome.exists_left_of_forall₂ hvariants _ hv
  obtain ⟨hmem, hone, -⟩ := (mem_oneofMembers_iff _ _ _).mp hf
  rw [← hfile, houter, htype, ← siteOf_append]
  have hdepth : (outer.map moduleName ++ [moduleName m.name]).length = outer'.length + 1 := by
    rw [houter, List.length_append, List.length_map, List.length_singleton]
  rcases Context.element_message layout hdepth (Context.element_of_variant hok) with
    ⟨hmessage, _, _, heq, hleads⟩ | ⟨-, hne⟩
  · obtain ⟨rfl, rfl⟩ := Element.message.inj (helement.symm.trans heq)
    refine .mk hasked hn hmem hmessage (.inl hone) (hleads.symm.trans ?_)
    rw [← hfile] at htarget
    exact htarget
  · exact absurd helement (hne _ _)

/-- An answer without an error has the text of every file that is asked for. -/
theorem exists_fileText_of_asked {file : FileDescriptor} (hok : (respond mapping q).error? = none)
    (hasked : IsAskedFor q file) :
    ∃ text, fileText file (TypeIndex.ofFiles q.files) mapping = .ok text ∧
      ⟨some (outputFile file.name), none, some text, none⟩ ∈ (respond mapping q).files := by
  obtain ⟨name, hname, hfind⟩ := hasked
  obtain rfl : file.name = name := by simpa using List.find?_some hfind
  rw [respond] at hok ⊢
  split at hok
  · rename_i files hfiles
    obtain ⟨generated, hmem, hgenerated⟩ := exists_of_mapM_mem _ _ _ hfiles file.name hname
    rw [generatedFile, hfind] at hgenerated
    obtain ⟨text, htext, hgenerated⟩ := (Outcome.bind_eq_ok_iff _ _ _).mp hgenerated
    obtain rfl := Except.ok.inj hgenerated
    exact ⟨text, htext, hmem⟩
  · simp at hok

/-- Every file that is asked for is emitted, and the answer has what is written for it. -/
theorem exists_emission_of_asked {file : FileDescriptor} (hok : (respond mapping q).error? = none)
    (hasked : IsAskedFor q file) :
    ∃ edition, ∃ e : FileEmission (contextOf file (TypeIndex.ofFiles q.files) mapping edition) file,
      Edition.ofName? file.syntaxName = some edition ∧
      fileItems file (TypeIndex.ofFiles q.files) mapping = .ok e.items ∧
      ⟨some (outputFile file.name), none, some (renderFile file.name e.items), none⟩ ∈
        (respond mapping q).files := by
  obtain ⟨text, htext, hanswer⟩ := exists_fileText_of_asked hok hasked
  obtain ⟨edition, e, hedition, hitems, rfl⟩ := fileText_eq_ok htext
  exact ⟨edition, e, hedition, hitems, hanswer⟩

section

variable {file : FileDescriptor} {edition : Edition} {outer : List String}
  {m : MessageDescriptor} {f : FieldDescriptor} {inner : Site}
  (e : FileEmission (contextOf file (TypeIndex.ofFiles q.files) mapping edition) file)
  (hgenerated : IsGenerated q mapping file.name e.items) (hm : EmittedAt file outer m)
  (htype : f.type = .message)
  (hleads : destination? (TypeIndex.ofFiles q.files) mapping layout file.name f.typeName =
    some inner)

include hgenerated hm htype hleads

/-- The structure of a message holds the values of its plain fields that are not repeated. -/
theorem contains_of_plainField (hf : f ∈ plainFields m.body) (hlabel : f.label ≠ .repeated) :
    Contains (IsGenerated q mapping) layout (.struct (siteOf file.name (outer ++ [m.name])))
      (.struct inner) := by
  obtain ⟨-, docs, place, fields, hstruct, hfields⟩ := e.exists_struct_of_message hm
  obtain ⟨member, hmember, hfield⟩ := Outcome.exists_right_of_forall₂ hfields f hf
  rw [siteOf_append]
  obtain ⟨-, ⟨-, element, helement, rfl⟩ | ⟨_, _, _, _, hmap, -⟩⟩ := Context.member_eq_ok hfield
  · rcases Context.element_message layout (List.length_map _) helement with
      ⟨-, reference, type, rfl, htarget⟩ | ⟨hne, -⟩
    · refine .field hgenerated hstruct (List.mem_append_left _ hmember) ?_ (htarget.trans hleads)
      rw [Bool.eq_false_iff, ne_eq, Context.isRepeated_cardinality]
      exact hlabel
    · exact absurd htype hne
  · exact absurd (Context.mapFields?_eq_some hmap).1 hlabel

/-- The structure of a message holds the values in its oneofs. -/
theorem holds_of_oneofMember {p : OneofDescriptor × Nat} (hp : p ∈ spelledOneofs m.body)
    (hf : f ∈ oneofMembers m.body p.2) :
    Holds (IsGenerated q mapping) layout (siteOf file.name (outer ++ [m.name])) inner := by
  obtain ⟨-, docs, place, fields, hstruct, -⟩ := e.exists_struct_of_message hm
  obtain ⟨docs', place', variants, honeof, hvariants⟩ := e.exists_oneof_of_message hm hp
  obtain ⟨v, hv, hvariant⟩ := Outcome.exists_right_of_forall₂ hvariants f hf
  have hdepth : ((outer ++ [m.name]).map moduleName).length = outer.length + 1 := by simp
  rw [siteOf_append]
  rcases Context.element_message layout hdepth (Context.element_of_variant hvariant) with
    ⟨-, reference, type, helement, htarget⟩ | ⟨hne, -⟩
  · refine .inr ⟨⟨file.name, (outer ++ [m.name]).map moduleName, typeName p.1.name⟩, ?_, ?_⟩
    · refine .oneof hgenerated hstruct (List.mem_append_right _ (List.mem_map_of_mem hp)) ?_
      rw [List.map_append]
      exact follow_module _ _ _
    · exact .variant hgenerated honeof hv helement (htarget.trans hleads)
  · exact absurd htype hne

end

/-- What a message embeds its structure holds. -/
theorem holds_of_embeds (hq : validate q = .ok ()) (hok : (respond mapping q).error? = none)
    {site inner : Site} (h : Embeds q mapping layout site inner) :
    Holds (IsGenerated q mapping) layout site inner := by
  obtain @⟨file, outer, m, f, _, hasked, hm, hf, htype, hsingle, hleads⟩ := h
  obtain ⟨edition, e, -, hitems, -⟩ := exists_emission_of_asked hok hasked
  have hgenerated : IsGenerated q mapping file.name e.items := ⟨file, hasked, rfl, hitems⟩
  cases hone : f.isOneofMember with
  | true =>
      obtain ⟨-, -, -, -, -, hlink⟩ := (validate_eq_ok_iff q).mp hq
      have hrange := oneofsInRange_of_link hlink hasked.mem hm.messageAt
      obtain ⟨p, hp, hmember⟩ := exists_spelledOneof_of_isOneofMember hrange hf hone
      exact holds_of_oneofMember e hgenerated hm htype hleads hp hmember
  | false =>
      have hplain : f ∈ plainFields m.body := List.mem_filter.mpr ⟨hf, by simp [hone]⟩
      have hlabel : f.label ≠ .repeated := by simpa [hone] using hsingle
      exact .inl (contains_of_plainField e hgenerated hm htype hleads hplain hlabel)

/-- Among the types that are generated for an accepted request there is one that contains
itself exactly if some message embeds itself, directly or by way of other messages. -/
theorem contains_cycle_iff_embeds_cycle (q : GeneratorRequest) (hq : validate q = .ok ())
    (mapping : PathMapping) (hok : (respond mapping q).error? = none)
    (layout : String → Option Site) :
    (∃ node, Relation.TransGen (Contains (IsGenerated q mapping) layout) node node) ↔
      ∃ site, Relation.TransGen (Embeds q mapping layout) site site := by
  have hholds : Holds (IsGenerated q mapping) layout = Embeds q mapping layout := by
    refine funext₂ fun site inner => propext ⟨fun h => ?_, holds_of_embeds hq hok⟩
    rcases h with h | ⟨oneof, hout, hin⟩
    · exact embeds_of_contains h
    · exact embeds_of_contains_oneof hout hin
  rw [exists_contains_cycle_iff, hholds]

theorem siteOf_track : siteOf "track.proto" ["Track"] = ⟨"track.proto", [], "Track"⟩ := by
  decide

/-- All that is embedded by the file of a track is what its one field names. -/
theorem eq_of_embeds_track {typeName : String} {site inner : Site}
    (h : Embeds ⟨["track.proto"], none, [trackFile typeName], none⟩ .empty layout site inner) :
    site = ⟨"track.proto", [], "Track"⟩ ∧
      destination? (TypeIndex.ofFiles [trackFile typeName]) .empty layout "track.proto" typeName =
        some inner := by
  obtain @⟨file, outer, m, f, _, ⟨name, -, hfind⟩, hm, hf, -, -, hleads⟩ := h
  obtain rfl := List.mem_singleton.mp (List.mem_of_find?_eq_some hfind)
  rcases emittedAt_trackFile hm with ⟨rfl, htop⟩ | rfl
  · obtain rfl := List.mem_singleton.mp htop
    obtain rfl := List.mem_singleton.mp hf
    exact ⟨siteOf_track, hleads⟩
  · exact absurd hf List.not_mem_nil

/-- A track with a point in it contains nothing that contains itself. -/
theorem track_of_point_finite :
    let q : GeneratorRequest := ⟨["track.proto"], none, [trackFile ".tracks.Track.Point"], none⟩
    validate q = .ok () ∧ (respond .empty q).error? = none ∧
      ¬∃ node, Relation.TransGen (Contains (IsGenerated q .empty) fun _ => none) node node := by
  intro q
  have hvalid : validate q = .ok () := by decide +kernel
  have hok : (respond .empty q).error? = none := by decide +kernel
  refine ⟨hvalid, hok, fun hcycle => ?_⟩
  obtain ⟨site, hcycle⟩ := (contains_cycle_iff_embeds_cycle q hvalid .empty hok _).mp hcycle
  obtain ⟨inner, hfirst, -⟩ := Relation.TransGen.head'_iff.mp hcycle
  obtain ⟨last, -, hlast⟩ := Relation.TransGen.tail'_iff.mp hcycle
  obtain ⟨htrack, -⟩ := eq_of_embeds_track hfirst
  obtain ⟨-, hpoint⟩ := eq_of_embeds_track hlast
  rw [htrack] at hpoint
  exact absurd hpoint (by decide +kernel)

/-- The structure for a track that refers to the track before it contains itself. -/
theorem track_of_tracks_infinite :
    let q : GeneratorRequest := ⟨["track.proto"], none, [trackFile ".tracks.Track"], none⟩
    let track : Node := .struct ⟨"track.proto", [], "Track"⟩
    validate q = .ok () ∧ (respond .empty q).error? = none ∧
      Relation.TransGen (Contains (IsGenerated q .empty) fun _ => none) track track := by
  intro q track
  have hvalid : validate q = .ok () := by decide +kernel
  have hok : (respond .empty q).error? = none := by decide +kernel
  have hasked : IsAskedFor q (trackFile ".tracks.Track") :=
    ⟨"track.proto", List.mem_singleton_self _, rfl⟩
  have hembeds : Embeds q .empty (fun _ => none) (siteOf "track.proto" ["Track"])
      ⟨"track.proto", [], "Track"⟩ :=
    .mk hasked (.top List.mem_cons_self) List.mem_cons_self rfl (.inr (by decide))
      (by decide +kernel)
  rw [siteOf_track] at hembeds
  exact ⟨hvalid, hok, (holds_of_embeds hvalid hok hembeds).transGen⟩

end Generator

end Protogen
