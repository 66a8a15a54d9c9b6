import Mathlib.Data.List.Basic
import Protogen.Name.Identifier
import Protogen.Name.SchemaPath
import Protogen.Proofs.Files.Separation
import Protogen.Proofs.Name.Converted
import Protogen.Proofs.Text.Pieces

/-!
# The name of an artifact

The file generated for a message lies in the directory of the package, under the name of the
message. Its pieces are the parts of the package and the name of the file, and both can be read
off them again, so different messages have different artifacts below every directory.
-/

namespace Protogen

open Files

/-- A message and the package it is in. -/
structure QualifiedName where
  package : String
  message : String
  deriving DecidableEq, Repr

namespace Name

theorem schemaStem_append (stem : String) : schemaStem (stem ++ "." ++ schemaExtension) = stem := by
  have hreverse : (stem ++ "." ++ schemaExtension).toList.reverse =
      ("." ++ schemaExtension).toList.reverse ++ stem.toList.reverse := by
    rw [String.append_assoc, String.toList_append, List.reverse_append]
  have hstem : ("." ++ schemaExtension).toList.reverse.isPrefixOf?
      (stem ++ "." ++ schemaExtension).toList.reverse = some stem.toList.reverse :=
    List.isPrefixOf?_eq_some_iff_append_eq.mpr hreverse.symm
  rw [schemaStem, hstem]
  simp only [List.reverse_reverse, String.ofList_toList]

/-- The schema unit of a message and its output differ in the extension only. -/
theorem outputFile_canonicalFile (package message : String) :
    outputFile (canonicalFile package message) =
      (if package = "" then "" else packagePath package ++ "/") ++ message ++ ".pb.rs" := by
  have hextension : "." ++ outputExtension = ".pb.rs" := by decide
  have hcanonical : canonicalFile package message =
      (if package = "" then "" else packagePath package ++ "/") ++ message ++ "." ++
        schemaExtension := by
    by_cases hpackage : package = ""
    · simp [canonicalFile, hpackage]
    · simp [canonicalFile, hpackage, String.append_assoc]
  rw [outputFile, hcanonical, schemaStem_append, ← hextension, ← String.append_assoc]

theorem splitOn_map_slashForDot {cs : List Char} (h : '/' ∉ cs) :
    (cs.map slashForDot).splitOn '/' = cs.splitOn '.' := by
  induction cs with
  | nil => simp [List.splitOn_nil]
  | cons c cs ih =>
      rw [List.mem_cons, not_or] at h
      rw [List.map_cons, List.splitOn_cons_eq_if_modifyHead, List.splitOn_cons_eq_if_modifyHead,
        ih h.2]
      by_cases hdot : c = '.'
      · simp [hdot, slashForDot]
      · have hslash : slashForDot c = c := if_neg hdot
        simp [hslash, hdot, Ne.symm h.1]

/-- The directory of a package has the parts of the package. -/
theorem pieces_packagePath {package : String} (h : '/' ∉ package.toList) :
    pieces (packagePath package) = (package.toList.splitOn '.').map String.ofList := by
  rw [pieces, packagePath, String.toList_ofList, splitOn_map_slashForDot h]

end Name

open Name

namespace QualifiedName

/-- The file of the message below an output directory. -/
def artifact (name : QualifiedName) : String :=
  (if name.package = "" then "" else packagePath name.package ++ "/") ++ name.message ++ ".pb.rs"

/-- There are no empty parts between the dots of the package, and no slashes at all. -/
structure IsPlain (name : QualifiedName) : Prop where
  parts : name.package = "" ∨ ∀ part ∈ name.package.toList.splitOn '.', part ≠ []
  package : '/' ∉ name.package.toList
  message : '/' ∉ name.message.toList

/-- Identifiers are plain, with dots between them for a package. -/
theorem isPlain_of_isIdentifier {name : QualifiedName}
    (hpackage : name.package = "" ∨
      ∀ part ∈ name.package.toList.splitOn '.', isIdentifier (String.ofList part))
    (hmessage : isIdentifier name.message) : name.IsPlain := by
  have hslash {name : String} (h : isIdentifier name) : '/' ∉ name.toList :=
    fun hmem => absurd (identifierPart_of_isIdentifier name h '/' hmem) (by decide)
  refine ⟨hpackage.imp_right fun hparts part hpart => ?_, fun hmem => ?_, hslash hmessage⟩
  · rintro rfl
    exact absurd (hparts [] hpart) (by decide)
  · rcases hpackage with hempty | hparts
    · simp [hempty] at hmem
    · obtain ⟨part, hpart, hmem⟩ := Text.exists_mem_splitOn hmem (by decide : '/' ≠ '.')
      exact hslash (hparts part hpart) (by rwa [String.toList_ofList])

/-- The directories that the artifact is in. -/
def directories (name : QualifiedName) : List String :=
  if name.package = "" then [] else (name.package.toList.splitOn '.').map String.ofList

theorem package_eq_of_directories_eq {name name' : QualifiedName}
    (h : name.directories = name'.directories) : name.package = name'.package := by
  by_cases hempty : name.package = "" <;> by_cases hempty' : name'.package = "" <;>
    simp only [directories, hempty, hempty', if_true, if_false] at h
  · rw [hempty, hempty']
  · exact absurd h.symm (by simp [List.splitOn_ne_nil])
  · exact absurd h (by simp [List.splitOn_ne_nil])
  · have hparts : name.package.toList.splitOn '.' = name'.package.toList.splitOn '.' :=
      List.map_injective_iff.mpr (fun _ _ => String.ofList_injective) h
    have hjoin (s : String) : ['.'].intercalate (s.toList.splitOn '.') = s.toList :=
      List.intercalate_splitOn '.'
    rw [← String.toList_inj, ← hjoin name.package, hparts, hjoin name'.package]

theorem pieces_artifact {name : QualifiedName} (h : name.IsPlain) :
    pieces name.artifact = name.directories ++ [name.message ++ ".pb.rs"] := by
  have hfile : pieces (name.message ++ ".pb.rs") = [name.message ++ ".pb.rs"] :=
    pieces_of_not_mem (by simp [h.message])
  rw [artifact, directories]
  split
  · rw [String.empty_append, hfile, List.nil_append]
  · rw [String.append_assoc, pieces_append_slash, pieces_packagePath h.package, hfile]

theorem isPlainName_artifact {name : QualifiedName} (h : name.IsPlain) :
    IsPlainName name.artifact := by
  intro piece hpiece
  rw [pieces_artifact h, List.mem_append, List.mem_singleton] at hpiece
  rcases hpiece with hdirectory | rfl
  · rw [directories] at hdirectory
    split at hdirectory
    · simp at hdirectory
    · rename_i hpackage
      obtain ⟨part, hpart, rfl⟩ := List.mem_map.mp hdirectory
      have hne : part ≠ [] := h.parts.resolve_left hpackage part hpart
      have hdots : '.' ∉ part := Text.not_mem_of_mem_splitOn hpart
      refine ⟨?_, ?_, ?_⟩ <;> rw [ne_eq, ← String.toList_inj, String.toList_ofList]
      · exact hne
      · rintro rfl
        simp at hdots
      · rintro rfl
        simp at hdots
  · have hlong : 5 < (name.message ++ ".pb.rs").length := by
      rw [String.length_append]
      have hextension : ".pb.rs".length = 6 := by decide
      omega
    refine ⟨?_, ?_, ?_⟩ <;> intro heq <;> rw [heq] at hlong <;> exact absurd hlong (by decide)

/-- Different messages have different artifacts, even by their pieces. -/
theorem eq_of_pieces_artifact_eq {name name' : QualifiedName} (h : name.IsPlain)
    (h' : name'.IsPlain) (heq : pieces name.artifact = pieces name'.artifact) : name = name' := by
  rw [pieces_artifact h, pieces_artifact h'] at heq
  obtain ⟨hdirectories, hfile⟩ := List.append_inj' heq rfl
  have hpackage := package_eq_of_directories_eq hdirectories
  have hmessage : name.message = name'.message :=
    (String.append_left_inj _).mp (List.singleton_inj.mp hfile)
  cases name
  cases name'
  rw [mk.injEq]
  exact ⟨hpackage, hmessage⟩

/-- Below every directory the paths of artifacts with the same components are those of the same
message. -/
theorem eq_of_components_eq {name name' : QualifiedName} (h : name.IsPlain) (h' : name'.IsPlain)
    (out : String)
    (heq : components (join out name.artifact) = components (join out name'.artifact)) :
    name = name' := by
  rw [(isPlainName_artifact h).components_join, (isPlainName_artifact h').components_join] at heq
  refine eq_of_pieces_artifact_eq h h' ?_
  exact List.map_injective_iff.mpr (fun _ _ => Component.normal.inj) (List.append_cancel_left heq)

end QualifiedName

end Protogen
