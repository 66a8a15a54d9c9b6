import Protogen.Proofs.Descriptor.Comments
import Protogen.Proofs.Generator.Census
import Protogen.Proofs.Generator.EnumVariants

/-!
# Documentation of generated items

Whatever is generated for an element of a file is documented by the comment in force at the
place of the element, line by line. Where siblings are apart in the file, this is the comment
in force at the path of the element, whatever other locations say: comments at the paths of
other elements stay there, and those at paths that lead nowhere are lost.
-/

namespace Protogen

namespace Generator

open Descriptor Source Text

/-- The documentation that a comment makes: its lines, each after a space. -/
def docsOf : Option String → List String
  | none => []
  | some comment => (innerLines comment.toList).map fun l => " " ++ String.ofList l

/-- The item for a declaration is documented for each element that it is about: the relation
holds between the names on the way to the element, the element and the documentation. -/
inductive DocumentedBy (R : List String → Subject → List String → Prop) : Declared → Item → Prop
  | message {outer : List String} {m : MessageBody} {nested : List MessageDescriptor}
      {docs : List String} {name : String} {fields oneofs : List Member} :
      R (outer ++ [m.name]) (.message ⟨m, nested⟩) docs →
      List.Forall₂ (fun f member => R (outer ++ [m.name] ++ [f.name]) (.field f) member.docs)
        (plainFields m) fields →
      List.Forall₂ (fun p member => R (outer ++ [m.name] ++ [p.1.name]) (.oneof p.1) member.docs)
        (spelledOneofs m) oneofs →
      DocumentedBy R (.message outer m) (.struct docs name (fields ++ oneofs))
  | oneof {outer : List String} {m : MessageBody} {o : OneofDescriptor} {index : Nat}
      {docs : List String} {name : String} {variants : List Variant} :
      R (outer ++ [m.name] ++ [o.name]) (.oneof o) docs →
      List.Forall₂ (fun f v => R (outer ++ [m.name] ++ [f.name]) (.field f) v.docs)
        (oneofMembers m index) variants →
      DocumentedBy R (.oneof outer m o index) (.oneof docs name variants)
  | enum {outer : List String} {e : EnumDescriptor} {docs : List String} {name : String}
      {variants : List EnumVariant} :
      R (outer ++ [e.name]) (.enum e) docs →
      List.Forall₂ (fun value v => R (outer ++ [e.name] ++ [value.name]) (.value value) v.docs)
        (firstOfNumber [] e.values) variants →
      DocumentedBy R (.enum outer e) (.enum docs name variants)

namespace Context

variable {ctx : Context} {place : String} {depth : Nat}

theorem docs_of_member {f : FieldDescriptor} {member : Member}
    (h : ctx.member place f depth = .ok member) :
    member.docs = ctx.docs (placeIn place f.name) := by
  obtain ⟨-, ⟨-, _, -, rfl⟩ | ⟨_, _, _, _, -, -, -, rfl⟩⟩ := member_eq_ok h
  · rfl
  · rfl

theorem docs_of_variant {f : FieldDescriptor} {v : Variant}
    (h : ctx.variant place depth f = .ok v) : v.docs = ctx.docs (placeIn place f.name) := by
  obtain ⟨-, _, -, rfl⟩ := variant_eq_ok h
  rfl

theorem docs_of_enumVariant {e : EnumDescriptor} {value : EnumValueDescriptor} {v : EnumVariant}
    (h : ctx.enumVariant place e value = .ok v) : v.docs = ctx.docs (placeIn place value.name) := by
  obtain ⟨-, rfl⟩ := enumVariant_eq_ok h
  rfl

end Context

theorem docs_contextOf (file : FileDescriptor) (types : TypeIndex) (mapping : PathMapping)
    (edition : Edition) (place : String) :
    (contextOf file types mapping edition).docs place = docsOf (file.remarkFor? place) := by
  rw [Context.docs, contextOf, Comments.find?_ofFile]
  cases file.remarkFor? place with
  | none => rfl
  | some comment => simp [docsOf, lines_trimComment, Function.comp_def]

/-- A path leads to every message for which something is generated. -/
theorem EmittedAt.exists_leads {file : FileDescriptor} {outer : List String} {m : MessageDescriptor}
    (h : EmittedAt file outer m) :
    ∃ path, Subject.Leads (.file file) path (outer ++ [m.name]) (.message m) := by
  induction h with
  | @top m hm =>
      exact (Subject.Leads.here _).exists_concat (.message m) (by simp [Subject.parts, hm])
  | @nested _ _ n _ hn _ ih =>
      obtain ⟨path, hleads⟩ := ih
      exact hleads.exists_concat (.message n) (by simp [Subject.parts, hn])

section DocumentedBy

variable {R : List String → Subject → List String → Prop} {file : FileDescriptor} {ctx : Context}

/-- The relation holds for the documentation at the place of every element of the file. -/
def HoldsInPlace (R : List String → Subject → List String → Prop) (file : FileDescriptor)
    (ctx : Context) : Prop :=
  ∀ path names s, Subject.Leads (.file file) path names s → names ≠ [] →
    R names s (ctx.docs (placeOf names))

/-- The relation holds for members of a list whose documentation is that of parts of an element. -/
theorem HoldsInPlace.forall₂_parts {α β : Type} (hR : HoldsInPlace R file ctx) {path : List Int}
    {names : List String} {s : Subject} (hleads : Subject.Leads (.file file) path names s)
    (hne : names ≠ []) (subject : α → Subject) (docs : β → List String) {xs : List α} {ys : List β}
    (hxs : ∀ x ∈ xs, subject x ∈ s.parts.map Part.subject)
    (h : List.Forall₂ (fun x y => docs y = ctx.docs (placeIn (placeOf names) (subject x).name))
      xs ys) :
    List.Forall₂ (fun x y => R (names ++ [(subject x).name]) (subject x) (docs y)) xs ys := by
  refine ((List.forall₂_and_left xs ys).mpr ⟨hxs, h⟩).imp fun x y hxy => ?_
  obtain ⟨hx, hdocs⟩ := hxy
  obtain ⟨inner, hinner⟩ := hleads.exists_concat _ hx
  rw [hdocs, ← placeOf_concat hne]
  exact hR inner _ _ hinner (by simp)

theorem documentedBy_enum (hR : HoldsInPlace R file ctx) {path : List Int} {outer : List String}
    {e : EnumDescriptor} (hleads : Subject.Leads (.file file) path (outer ++ [e.name]) (.enum e))
    {item : Item} (h : ctx.enumItem (placeOf (outer ++ [e.name])) e = .ok item) :
    DocumentedBy R (.enum outer e) item := by
  obtain ⟨variants, rfl, -, hvariants⟩ := Context.enumItem_eq_ok h
  refine .enum (hR path _ _ hleads (by simp)) ?_
  refine hR.forall₂_parts hleads (by simp) .value EnumVariant.docs (fun v hv => ?_)
    (((Outcome.mapM_eq_ok_iff _ _ _).mp hvariants).imp fun v variant => Context.docs_of_enumVariant)
  have hvalue := (firstOfNumber_sublist [] e.values).subset hv
  simp [Subject.parts, hvalue]

theorem documentedBy_message (hR : HoldsInPlace R file ctx) {outer : List String}
    {m : MessageDescriptor} (hm : EmittedAt file outer m) {entry : List String × Item}
    (h : YieldsInPlace ctx (.message outer m.body) entry) :
    DocumentedBy R (.message outer m.body) entry.2 := by
  obtain ⟨path, hleads⟩ := hm.exists_leads
  obtain ⟨body, nested⟩ := m
  obtain ⟨-, hfields⟩ | _ | _ := h
  refine .message (hR path _ _ hleads (by simp)) ?_ ?_
  · refine hR.forall₂_parts hleads (by simp) .field Member.docs (fun f hf => ?_)
      (hfields.imp fun f member => Context.docs_of_member)
    have hmem := (mem_plainFields_iff _ _).mp hf
    simp [Subject.parts, hmem.1]
  · refine hR.forall₂_parts hleads (by simp) (fun p : OneofDescriptor × Nat => .oneof p.1)
      Member.docs (fun p hp => ?_) ?_
    · have hmem := List.fst_mem_of_mem_zipIdx (List.mem_of_mem_filter hp)
      simp [Subject.parts, hmem]
    · rw [List.forall₂_map_right_iff, List.forall₂_same]
      exact fun p _ => rfl

theorem documentedBy_oneof (hR : HoldsInPlace R file ctx) {outer : List String}
    {m : MessageDescriptor} (hm : EmittedAt file outer m) {p : OneofDescriptor × Nat}
    (hp : p ∈ spelledOneofs m.body) {entry : List String × Item}
    (h : YieldsInPlace ctx (.oneof outer m.body p.1 p.2) entry) :
    DocumentedBy R (.oneof outer m.body p.1 p.2) entry.2 := by
  obtain ⟨path, hleads⟩ := hm.exists_leads
  obtain _ | hvariants | _ := h
  have honeof : Subject.oneof p.1 ∈ (Subject.message m).parts.map Part.subject := by
    have hmem := List.fst_mem_of_mem_zipIdx (List.mem_of_mem_filter hp)
    simp [Subject.parts, hmem]
  obtain ⟨inner, hinner⟩ := hleads.exists_concat _ honeof
  have hdocs := hR inner _ _ hinner (by simp)
  rw [placeOf_concat (by simp)] at hdocs
  refine .oneof hdocs ?_
  refine hR.forall₂_parts hleads (by simp) .field Variant.docs (fun f hf => ?_)
    (hvariants.imp fun f v => Context.docs_of_variant)
  have hmem := (mem_oneofMembers_iff _ _ _).mp hf
  simp [Subject.parts, hmem.1]

/-- What holds for the documentation in place holds for everything generated for the file. -/
theorem documentedBy_of_yields (hR : HoldsInPlace R file ctx) {d : Declared}
    (hd : d ∈ declaredByFile file) {entry : List String × Item} (h : YieldsInPlace ctx d entry) :
    DocumentedBy R d entry.2 := by
  rcases (mem_declaredByFile_iff _ _).mp hd with ⟨outer, m, hm, hof⟩ | ⟨e, he, rfl⟩
  · cases hof with
    | message => exact documentedBy_message hR hm h
    | oneof hp => exact documentedBy_oneof hR hm hp h
    | @enum e he =>
        obtain ⟨path, hleads⟩ := hm.exists_leads
        obtain ⟨inner, hinner⟩ := hleads.exists_concat (.enum e) (by simp [Subject.parts, he])
        obtain _ | _ | hitem := h
        exact documentedBy_enum hR hinner hitem
  · obtain ⟨path, hleads⟩ := (Subject.Leads.here (.file file)).exists_concat (.enum e)
      (by simp [Subject.parts, he])
    obtain _ | _ | hitem := h
    exact documentedBy_enum hR hleads hitem

end DocumentedBy

/-- One path leads to the element with these names, and the documentation is the comment in
force there. -/
def CommentedAs (file : FileDescriptor) (names : List String) (s : Subject) (docs : List String) :
    Prop :=
  ∃ path, Subject.Leads (.file file) path names s ∧
    (∀ path' t, Subject.Leads (.file file) path' names t → path' = path) ∧
      docs = docsOf (file.remarkAt? path)

theorem holdsInPlace_commentedAs {file : FileDescriptor} (hapart : file.SiblingsApart)
    (types : TypeIndex) (mapping : PathMapping) (edition : Edition) :
    HoldsInPlace (CommentedAs file) file (contextOf file types mapping edition) := by
  intro path names s hleads hne
  refine ⟨path, hleads, fun path' t ht => (ht.unique hapart hleads).1, ?_⟩
  rw [docs_contextOf, hapart.remarkFor?_placeOf hleads hne]

/-- The file with other locations in its source information. -/
def withLocations (file : FileDescriptor) (ls : List Location) : FileDescriptor :=
  { file with sourceInfo? := some ls }

theorem placeAt?_withLocations (file : FileDescriptor) (ls : List Location) (path : List Int32) :
    (withLocations file ls).placeAt? path = file.placeAt? path := by
  match path with
  | [] | [_] | _ :: _ :: _ => rfl

/-- A location whose path leads nowhere contributes nothing. -/
theorem ofFile_withLocations {file : FileDescriptor} {before after : List Location} {l : Location}
    (hlocations : file.locations = before ++ l :: after) (hplace : file.placeAt? l.path = none) :
    Comments.ofFile (withLocations file (before ++ after)) = Comments.ofFile file := by
  have hsame : Comments.contribution? (withLocations file (before ++ after)) =
      Comments.contribution? file := by
    funext l'
    rw [Comments.contribution?_eq, Comments.contribution?_eq, placeAt?_withLocations]
  have hnone : Comments.contribution? file l = none := by
    rw [Comments.contribution?_eq, hplace, Option.bind_none]
  rw [FileDescriptor.locations] at hlocations
  rw [Comments.ofFile, Comments.ofFile, hsame, hlocations, List.filterMap_append,
    List.filterMap_cons_none hnone, ← List.filterMap_append]
  rfl

theorem fileText_withLocations {file : FileDescriptor} {before after : List Location} {l : Location}
    (hlocations : file.locations = before ++ l :: after) (hplace : file.placeAt? l.path = none)
    (types : TypeIndex) (mapping : PathMapping) :
    fileText (withLocations file (before ++ after)) types mapping =
      fileText file types mapping := by
  rw [fileText, fileItems, ofFile_withLocations hlocations hplace, fileText, fileItems]
  rfl

/-- Where siblings are apart in a file, every structure, enumeration, member and variant that is
generated for it has the comment in force at the path of its element for documentation, and it
is written out in front of it, line by line. Without a location whose path leads nowhere, the
text is the same. -/
theorem documentation_follows_paths (file : FileDescriptor) (types : TypeIndex)
    (mapping : PathMapping) (hapart : file.SiblingsApart) (text : String)
    (h : fileText file types mapping = .ok text) :
    ∃ items, fileItems file types mapping = .ok items ∧ text = renderFile file.name items ∧
      FileWrittenAs file.name items text ∧
      List.Forall₂ (fun d entry => Represents d entry ∧ DocumentedBy (CommentedAs file) d entry.2)
        (declaredByFile file) (contentsOf [] items) ∧
      ∀ before l after, file.locations = before ++ l :: after →
        (∀ names s, Subject.Leads (.file file) l.numbers names s → names = []) →
          fileText (withLocations file (before ++ after)) types mapping = .ok text := by
  obtain ⟨edition, e, -, hitems, htext⟩ := fileText_eq_ok h
  have hR := holdsInPlace_commentedAs hapart types mapping edition
  refine ⟨e.items, hitems, htext, htext ▸ fileWrittenAs_renderFile file.name e.items, ?_, ?_⟩
  · refine ((List.forall₂_and_left _ _).mpr ⟨fun d => id, e.yieldsInPlace_items⟩).imp
      fun d entry hd => ?_
    exact ⟨represents_of_yields hd.2.yields, documentedBy_of_yields hR hd.1 hd.2⟩
  · intro before l after hlocations hnowhere
    have hplace : file.placeAt? l.path = none := by
      refine Option.eq_none_iff_forall_not_mem.mpr fun place hfound => ?_
      obtain ⟨names, s, hleads, hne, -⟩ := (file.placeAt?_eq_some_iff _ _).mp hfound
      exact hne (hnowhere names s hleads)
    rw [fileText_withLocations hlocations hplace]
    exact h

/-- A track with a comment over two lines that is not replaced by a blank one, and a field with a
comment after it. Other locations lead too far, to no index or past the last one. -/
def commentedFile : FileDescriptor :=
  let before (path : List Int32) (comment : String) : Location := ⟨path, [], some comment, none, []⟩
  let field (name : String) (number : Int32) : FieldDescriptor :=
    { FieldDescriptor.blank with
      name? := name, number? := number, label? := some 1, type? := some 5 }
  let track : MessageBody :=
    { MessageBody.blank with
      name? := "Track"
      fields := [field "points" 1, { field "speed" 2 with oneofIndex? := some 0 }]
      enums := [⟨"Mode", [⟨"FAST", some 0, none⟩], none, [], []⟩]
      oneofs := [⟨"kind", none⟩] }
  { FileDescriptor.blank with
    name? := "track.proto"
    package? := "tracks"
    messages := [⟨track, []⟩]
    sourceInfo? := some
      [before [4, 0] " A track.\n\n  Of points. \r\n", before [4, 0] " \n",
        ⟨[4, 0, 2, 0], [], none, some " All of them.", []⟩, before [4, 0, 2, 0, 1] "too far",
        before [4, -1] "no index", before [4, 1] "past the last", before [4, 0, 4, 0, 2, 0] "Fast."]
    syntaxName? := "proto3" }

/-- The track and its field have their comments, and nothing is said about the oneof. -/
theorem commented_track_documented :
    commentedFile.SiblingsApart ∧
      ∃ text items, fileText commentedFile (TypeIndex.ofFiles [commentedFile]) .empty = .ok text ∧
        text = renderFile "track.proto" items ∧ FileWrittenAs "track.proto" items text ∧
        List.Forall₂
          (fun d entry => Represents d entry ∧ DocumentedBy (CommentedAs commentedFile) d entry.2)
          (declaredByFile commentedFile) (contentsOf [] items) ∧
        docsOf (commentedFile.remarkAt? [4, 0]) = [" A track.", " ", " Of points."] ∧
        docsOf (commentedFile.remarkAt? [4, 0, 2, 0]) = [" All of them."] ∧
        docsOf (commentedFile.remarkAt? [4, 0, 8, 0]) = [] := by
  have hapart : commentedFile.SiblingsApart := by
    refine Subject.apartInside_file_iff.mpr ⟨by decide, fun m hm => ?_, by decide⟩
    obtain rfl := List.mem_singleton.mp hm
    exact Subject.apartInside_message_iff.mpr ⟨by decide, by simp, by decide⟩
  have hok : (fileText commentedFile (TypeIndex.ofFiles [commentedFile]) .empty).isOk = true := by
    decide +kernel
  obtain ⟨text, htext⟩ := Outcome.exists_of_isOk hok
  obtain ⟨items, -, hrender, hwritten, hitems, -⟩ := documentation_follows_paths commentedFile
    (TypeIndex.ofFiles [commentedFile]) .empty hapart text htext
  exact ⟨hapart, text, items, htext, hrender, hwritten, hitems, by decide +kernel,
    by decide +kernel, by decide +kernel⟩

end Generator

end Protogen
