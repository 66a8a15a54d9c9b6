import Protogen.Generator.Backend
import Protogen.Proofs.Generator.Index
import Protogen.Proofs.Outcome

/-!
# The order of the files of a request

The generator uses the files of a request in two ways only: it looks up a file by its name, and
a type by its full name. If no two files and no two types have one name, a lookup finds the same
thing in every order of the files, and everything that is generated hangs on lookups alone.
-/

namespace Protogen

namespace Generator

open Descriptor Source

/-- If no two files have one name, a file is found under its name. -/
theorem find?_file_eq_some_iff {files : List FileDescriptor}
    (hnames : (files.map FileDescriptor.name).Nodup) (name : String) (file : FileDescriptor) :
    (files.find? fun f => f.name == name) = some file ↔ file ∈ files ∧ file.name = name := by
  constructor
  · intro hfind
    exact ⟨List.mem_of_find?_eq_some hfind, by simpa using List.find?_some hfind⟩
  · rintro ⟨hfile, rfl⟩
    obtain ⟨found, hfound⟩ : ∃ found, (files.find? fun f => f.name == file.name) = some found :=
      Option.isSome_iff_exists.mp (List.find?_isSome.mpr ⟨file, hfile, beq_self_eq_true _⟩)
    have hsame : found.name = file.name := by simpa using List.find?_some hfound
    rw [hfound, List.inj_on_of_nodup_map hnames (List.mem_of_find?_eq_some hfound) hfile hsame]

theorem find?_file_of_perm {files files' : List FileDescriptor} (h : files'.Perm files)
    (hnames : (files.map FileDescriptor.name).Nodup) (name : String) :
    (files'.find? fun f => f.name == name) = files.find? fun f => f.name == name := by
  have hnames' : (files'.map FileDescriptor.name).Nodup :=
    ((h.map FileDescriptor.name).nodup_iff).mpr hnames
  refine Option.ext fun file => ?_
  rw [find?_file_eq_some_iff hnames', find?_file_eq_some_iff hnames, h.mem_iff]

namespace TypeIndex

/-- If no two entries have one name, an entry is found exactly if it is there. -/
theorem find?_eq_some_iff {types : TypeIndex} (hnodup : (types.map Prod.fst).Nodup)
    (name : String) (info : TypeInfo) :
    types.find? name = some info ↔ (name, info) ∈ types :=
  ⟨mem_of_find? types name info, find?_of_mem types name info hnodup⟩

theorem find?_of_perm {types types' : TypeIndex} (h : types'.Perm types)
    (hnodup : (types.map Prod.fst).Nodup) (name : String) :
    types'.find? name = types.find? name := by
  have hnodup' : (types'.map Prod.fst).Nodup := ((h.map Prod.fst).nodup_iff).mpr hnodup
  refine Option.ext fun info => ?_
  rw [find?_eq_some_iff hnodup', find?_eq_some_iff hnodup, h.mem_iff]

theorem get_congr {types types' : TypeIndex} {name : String}
    (h : types'.find? name = types.find? name) : types'.get name = types.get name := by
  rw [get, get, h]

end TypeIndex

namespace Context

/-- The same context with another index. -/
def withTypes (ctx : Context) (types : TypeIndex) : Context := { ctx with types := types }

section

variable {ctx : Context} {types : TypeIndex}
  (h : ∀ name, types.find? name = ctx.types.find? name)

include h

theorem get_withTypes (name : String) : (ctx.withTypes types).types.get name = ctx.types.get name :=
  TypeIndex.get_congr (h name)

theorem reference_withTypes (typeName : String) (depth : Nat) :
    (ctx.withTypes types).reference typeName depth = ctx.reference typeName depth := by
  rw [reference, get_withTypes h]
  rfl

theorem messageElement_withTypes (typeName : String) (depth : Nat) :
    (ctx.withTypes types).messageElement typeName depth = ctx.messageElement typeName depth := by
  rw [messageElement, reference_withTypes h]
  rfl

theorem enumElement_withTypes (typeName : String) (depth : Nat) :
    (ctx.withTypes types).enumElement typeName depth = ctx.enumElement typeName depth := by
  rw [enumElement, reference_withTypes h]
  rfl

theorem expectKind_withTypes (f : FieldDescriptor) (kind : TypeKind) (declared : String) :
    (ctx.withTypes types).expectKind f kind declared = ctx.expectKind f kind declared := by
  rw [expectKind, get_withTypes h]
  rfl

theorem element_withTypes (f : FieldDescriptor) (depth : Nat) :
    (ctx.withTypes types).element f depth = ctx.element f depth := by
  simp only [element, expectKind_withTypes h, messageElement_withTypes h, enumElement_withTypes h]

theorem mapFields?_withTypes (f : FieldDescriptor) :
    (ctx.withTypes types).mapFields? f = ctx.mapFields? f := by
  simp only [mapFields?, withTypes, h]

theorem mapValue_withTypes (f value : FieldDescriptor) (depth : Nat) :
    (ctx.withTypes types).mapValue f value depth = ctx.mapValue f value depth := by
  simp only [mapValue, messageElement_withTypes h, enumElement_withTypes h]

theorem member_withTypes (place : String) (f : FieldDescriptor) (depth : Nat) :
    (ctx.withTypes types).member place f depth = ctx.member place f depth := by
  simp only [member, mapFields?_withTypes h, mapValue_withTypes h, element_withTypes h]
  rfl

theorem variant_withTypes (place : String) (depth : Nat) (f : FieldDescriptor) :
    (ctx.withTypes types).variant place depth f = ctx.variant place depth f := by
  simp only [variant, element_withTypes h]
  rfl

theorem oneofParts_withTypes (m : MessageBody) (place : String) (depth : Nat) (name : String)
    (fields : List FieldDescriptor) :
    (ctx.withTypes types).oneofParts m place depth name fields =
      ctx.oneofParts m place depth name fields := by
  have hvariants : (ctx.withTypes types).variant place depth = ctx.variant place depth :=
    funext (variant_withTypes h place depth)
  simp only [oneofParts, hvariants]
  rfl

theorem oneofsParts_withTypes (m : MessageBody) (place : String) (depth : Nat)
    (os : List OneofDescriptor) (index : Nat) :
    (ctx.withTypes types).oneofsParts m place depth index os =
      ctx.oneofsParts m place depth index os := by
  induction os generalizing index with
  | nil => rfl
  | cons o os ih => simp only [oneofsParts, oneofParts_withTypes h, ih]

end

mutual

theorem messageItems_withTypes {ctx : Context} {types : TypeIndex}
    (h : ∀ name, types.find? name = ctx.types.find? name) :
    ∀ (place : String) (depth : Nat) (m : MessageDescriptor),
      (ctx.withTypes types).messageItems place depth m = ctx.messageItems place depth m
  | place, depth, ⟨m, nested⟩ => by
      have hnested := nestedItems_withTypes h place (depth + 1) nested
      simp only [messageItems, member_withTypes h, oneofsParts_withTypes h, hnested]
      rfl

theorem nestedItems_withTypes {ctx : Context} {types : TypeIndex}
    (h : ∀ name, types.find? name = ctx.types.find? name) :
    ∀ (place : String) (depth : Nat) (ms : List MessageDescriptor),
      (ctx.withTypes types).nestedItems place depth ms = ctx.nestedItems place depth ms
  | _, _, [] => rfl
  | place, depth, m :: ms => by
      have hfirst := messageItems_withTypes h (placeIn place m.name) depth m
      have hrest := nestedItems_withTypes h place depth ms
      simp only [nestedItems, hfirst, hrest]

end

theorem rootItems_withTypes {ctx : Context} {types : TypeIndex}
    (h : ∀ name, types.find? name = ctx.types.find? name) (ms : List MessageDescriptor) :
    rootItems (ctx.withTypes types) ms = rootItems ctx ms := by
  induction ms with
  | nil => rfl
  | cons m ms ih => simp only [rootItems, messageItems_withTypes h, ih]

end Context

/-- What is generated for a file depends on the index through its lookups only. -/
theorem fileItems_congr {types types' : TypeIndex}
    (h : ∀ name, types'.find? name = types.find? name) (file : FileDescriptor)
    (mapping : PathMapping) : fileItems file types' mapping = fileItems file types mapping := by
  rw [fileItems, fileItems]
  split
  · rfl
  · rename_i edition _
    let ctx : Context := ⟨file.name, types, mapping, Comments.ofFile file, edition⟩
    have hroot : rootItems (ctx.withTypes types') file.messages = rootItems ctx file.messages :=
      Context.rootItems_withTypes h file.messages
    -- The enums at the top of the file are generated without looking at the index.
    exact congrArg (· >>= fun items => file.enums.mapM (fun e => ctx.enumItem e.name e) >>=
      fun enums => .ok (items ++ enums)) hroot

/-- The answer to a request does not depend on the order of its files, as long as their names
and the full names of their types are all different. -/
theorem respond_eq_of_files_perm (mapping : PathMapping) (q : GeneratorRequest)
    (files : List FileDescriptor) (hperm : files.Perm q.files)
    (hnames : (q.files.map FileDescriptor.name).Nodup)
    (htypes : ((TypeIndex.ofFiles q.files).map Prod.fst).Nodup) :
    respond mapping { q with files := files } = respond mapping q := by
  have hindex : (TypeIndex.ofFiles files).Perm (TypeIndex.ofFiles q.files) :=
    hperm.flatMap_right fileIndex
  have hgenerated :
      generatedFile { q with files := files } mapping = generatedFile q mapping := by
    funext name
    simp only [generatedFile, fileText, find?_file_of_perm hperm hnames,
      fileItems_congr (TypeIndex.find?_of_perm hindex htypes)]
  rw [respond, respond, hgenerated]

/-- An album, whose first track is of another file. -/
def albumFile : FileDescriptor :=
  { FileDescriptor.blank with
    name? := some "album.proto"
    package? := some "albums"
    syntaxName? := some "proto3"
    messages :=
      [⟨{ MessageBody.blank with
          name? := some "Album"
          fields :=
            [{ FieldDescriptor.blank with
              name? := some "first"
              number? := some 1
              label? := some Label.optional.toNumber
              type? := some DeclaredType.message.toNumber
              typeName? := some ".tracks.Track" }] }, []⟩] }

/-- A file of tracks and one of albums that refers to it are generated alike in both orders. -/
theorem swapped_files_generated :
    let track := Request.trackFile ".tracks.Track.Point"
    let mapping := PathMapping.empty.insert "tracks" "crate::tracks"
    let q : GeneratorRequest := ⟨["album.proto", "track.proto"], none, [track, albumFile], none⟩
    (q.files.map FileDescriptor.name).Nodup ∧
      ((TypeIndex.ofFiles q.files).map Prod.fst).Nodup ∧ (respond mapping q).error? = none ∧
      respond mapping { q with files := [albumFile, track] } = respond mapping q := by
  intro track mapping q
  have hnames : (q.files.map FileDescriptor.name).Nodup := by decide +kernel
  have htypes : ((TypeIndex.ofFiles q.files).map Prod.fst).Nodup := by decide +kernel
  have hperm : [albumFile, track].Perm q.files := .swap track albumFile []
  exact ⟨hnames, htypes, by decide +kernel,
    respond_eq_of_files_perm mapping q [albumFile, track] hperm hnames htypes⟩

end Generator

end Protogen
