import Protogen.Proofs.Generator.Containment
import Protogen.Proofs.Overrides.Applied

/-!
# The header of a generated file

A generated file begins with a comment of one line that names the schema it comes from. The
name is written as it is, so the comment ends where the name has its first line feed, and
whatever follows stands in the file as code. The name of a dataset has none exactly if its
package has none: the message has to be an identifier before anything is generated.
-/

namespace Protogen

namespace Source

/-- The text is a comment of one line, an empty line, and the rest. -/
def HasHeader (text rest : String) : Prop :=
  ∃ line, text = line ++ "\n\n" ++ rest ∧ "// @generated".toList <+: line.toList ∧
    '\n' ∉ line.toList

/-- The comment at the head of a file, without its end. -/
def headerComment (schemaFile : String) : String :=
  "// @generated by tilebox-generate from " ++ schemaFile ++ ". DO NOT EDIT."

theorem renderFile_eq (name : String) (items : List Item) :
    renderFile name items = headerComment name ++ "\n\n" ++ renderItems 0 items := by
  have hend : ". DO NOT EDIT.\n" ++ "\n" = ". DO NOT EDIT." ++ "\n\n" := by simp
  have hline : headerLine name ++ "\n" = headerComment name ++ "\n\n" := by
    unfold headerLine headerComment
    rw [String.append_assoc, hend, ← String.append_assoc]
  rw [renderFile, hline]

theorem headerComment_starts (name : String) :
    "// @generated".toList <+: (headerComment name).toList := by
  have hstart : "// @generated".toList <+: "// @generated by tilebox-generate from ".toList := by
    decide
  unfold headerComment
  rw [String.append_assoc, String.toList_append]
  exact hstart.trans (List.prefix_append _ _)

theorem not_mem_headerComment_iff (name : String) :
    '\n' ∉ (headerComment name).toList ↔ '\n' ∉ name.toList := by
  have hstart : '\n' ∉ "// @generated by tilebox-generate from ".toList := by simp
  have hend : '\n' ∉ ". DO NOT EDIT.".toList := by simp
  unfold headerComment
  simp only [String.toList_append, List.mem_append, hstart, hend, false_or, or_false]

/-- A file has its header exactly if the name in it has no line feed. -/
theorem hasHeader_renderFile_iff (name : String) (items : List Item) :
    HasHeader (renderFile name items) (renderItems 0 items) ↔ '\n' ∉ name.toList := by
  rw [renderFile_eq, ← not_mem_headerComment_iff]
  constructor
  · rintro ⟨line, hline, -, hfeed⟩
    rw [String.append_left_inj, String.append_left_inj] at hline
    rw [hline]
    exact hfeed
  · exact fun hfeed => ⟨_, rfl, headerComment_starts name, hfeed⟩

end Source

namespace Name

theorem not_mem_packagePath_iff (package : String) :
    '\n' ∉ (packagePath package).toList ↔ '\n' ∉ package.toList := by
  rw [packagePath, String.toList_ofList, not_iff_not, List.mem_map]
  constructor
  · rintro ⟨c, hc, hfeed⟩
    rw [slashForDot] at hfeed
    split at hfeed
    · exact absurd hfeed (by decide)
    · exact hfeed ▸ hc
  · exact fun hfeed => ⟨'\n', hfeed, rfl⟩

/-- A schema unit has a line feed in its name only from its package or its message. -/
theorem not_mem_canonicalFile_iff (package message : String) :
    '\n' ∉ (canonicalFile package message).toList ↔
      '\n' ∉ package.toList ∧ '\n' ∉ message.toList := by
  have hextension : '\n' ∉ schemaExtension.toList := by decide
  have hfile : '\n' ∉ (message ++ "." ++ schemaExtension).toList ↔ '\n' ∉ message.toList := by
    simp [hextension]
  rw [canonicalFile]
  split
  · rename_i hempty
    rw [hfile, String.isEmpty_iff.mp hempty]
    simp
  · rw [String.toList_append, String.toList_append, List.mem_append, List.mem_append, not_or,
      not_or, hfile, not_mem_packagePath_iff]
    simp

end Name

namespace Generator

open Descriptor Name Source

theorem not_mem_of_isIdentifier {name : String} (h : isIdentifier name) : '\n' ∉ name.toList :=
  fun hfeed => absurd (identifierPart_of_isIdentifier name h '\n' hfeed) (by decide)

/-- Every file of an answer without an error has its header, and nothing of its name
outside of it, exactly if there is no line feed in the name. For the file of a dataset with
the overrides on that is the case exactly if there is none in the package. -/
theorem header_intact_iff (q : GeneratorRequest) (mapping : PathMapping)
    (hok : (respond mapping q).error? = none) (file : FileDescriptor)
    (hasked : IsAskedFor q file) :
    ∃ items, fileItems file (TypeIndex.ofFiles q.files) mapping = .ok items ∧
      ⟨some (outputFile file.name), none, some (renderFile file.name items), none⟩ ∈
        (respond mapping q).files ∧
      (HasHeader (renderFile file.name items) (renderItems 0 items) ↔ '\n' ∉ file.name.toList) ∧
      ∀ (o : Overrides) (dataset : FileDescriptor), o.apply dataset = .ok file →
        (HasHeader (renderFile file.name items) (renderItems 0 items) ↔
          '\n' ∉ (o.packageOn dataset).toList) := by
  obtain ⟨edition, e, -, hitems, hanswer⟩ := exists_emission_of_asked hok hasked
  have hheader := hasHeader_renderFile_iff file.name e.items
  refine ⟨e.items, hitems, hanswer, hheader, fun o dataset happly => ?_⟩
  obtain ⟨m, -, -, rfl⟩ := (o.apply_eq_ok_iff dataset file).mp happly
  have hmessage : isIdentifier (o.onMessage m).name :=
    (e.exists_struct_of_message (.top (List.mem_singleton_self _))).1
  rw [o.name_onMessage] at hmessage
  rw [hheader, o.name_applied, not_mem_canonicalFile_iff]
  exact and_iff_left (not_mem_of_isIdentifier hmessage)

/-- A track without fields. -/
def plainTrack : MessageDescriptor := ⟨{ MessageBody.blank with name? := some "Track" }, []⟩

/-- The dataset of tracks without fields. -/
def plainTrackFile : FileDescriptor :=
  { FileDescriptor.blank with
    name? := some "track.proto"
    package? := some "tracks"
    syntaxName? := some "proto3"
    messages := [plainTrack] }

/-- Under another package without line feeds the file of the track keeps its header. -/
theorem acme_header_intact :
    let o : Overrides := ⟨some "acme", none⟩
    let file := o.applied plainTrackFile plainTrack
    let q : GeneratorRequest := ⟨[file.name], none, [file], none⟩
    o.apply plainTrackFile = .ok file ∧ (respond .empty q).error? = none ∧ IsAskedFor q file ∧
      ∃ items, fileItems file (TypeIndex.ofFiles q.files) .empty = .ok items ∧
        HasHeader (renderFile file.name items) (renderItems 0 items) := by
  intro o file q
  have happly : o.apply plainTrackFile = .ok file :=
    o.apply_of_messages rfl (by decide +kernel : o.nameOn plainTrack ≠ "")
  have hok : (respond .empty q).error? = none := by decide +kernel
  have hasked : IsAskedFor q file :=
    ⟨file.name, List.mem_singleton_self _, List.find?_cons_of_pos (beq_self_eq_true file.name)⟩
  obtain ⟨items, hitems, -, -, hheader⟩ := header_intact_iff q .empty hok file hasked
  exact ⟨happly, hok, hasked, items, hitems,
    (hheader o plainTrackFile happly).mpr (by decide +kernel)⟩

/-- A package with a line feed puts a line of its own into the file of a track, as code. -/
theorem package_injects_module :
    let o : Overrides := ⟨some "acme\nmod injected; //", none⟩
    let file := o.applied plainTrackFile plainTrack
    let q : GeneratorRequest := ⟨[file.name], none, [file], none⟩
    o.apply plainTrackFile = .ok file ∧ Request.validate q = .ok () ∧
      (respond .empty q).error? = none ∧
      headerLine file.name = "// @generated by tilebox-generate from acme\n" ++
        "mod injected; ///Track.proto. DO NOT EDIT.\n" ∧
      ∃ items, fileItems file (TypeIndex.ofFiles q.files) .empty = .ok items ∧
        ¬HasHeader (renderFile file.name items) (renderItems 0 items) := by
  intro o file q
  have happly : o.apply plainTrackFile = .ok file :=
    o.apply_of_messages rfl (by decide +kernel : o.nameOn plainTrack ≠ "")
  have hok : (respond .empty q).error? = none := by decide +kernel
  have hasked : IsAskedFor q file :=
    ⟨file.name, List.mem_singleton_self _, List.find?_cons_of_pos (beq_self_eq_true file.name)⟩
  obtain ⟨edition, e, -, hitems, -⟩ := exists_emission_of_asked hok hasked
  have hfeed : '\n' ∈ file.name.toList := by decide +kernel
  exact ⟨happly, by decide +kernel, hok, by decide +kernel, e.items, hitems,
    fun hheader => (hasHeader_renderFile_iff file.name e.items).mp hheader hfeed⟩

end Generator

end Protogen
