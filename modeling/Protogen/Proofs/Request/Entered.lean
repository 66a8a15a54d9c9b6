import Protogen.Proofs.Request.Linked

/-!
# Names are entered once

Entering a name that is there already is a fault, unless both stand for a package. So a name
that a file declares stands for one thing only: two messages of a file that links have one
path only if they are the same, and no enum has the path of a message.
-/

namespace Protogen

namespace Link

open NameTable

variable {file full : String} {kind : NameKind}

/-- What a table has it keeps. -/
theorem find?_of_enter {table table' : NameTable} {d : Declaration} {first : Definition}
    (h : enter file table d = .ok table') (hfirst : table.find? full = some first) :
    table'.find? full = some first := by
  cases d with
  | fault e => simp [enter] at h
  | name other kind' =>
      rw [enter] at h
      split at h
      · rename_i hnone
        have hne : full ≠ other := by
          rintro rfl
          rw [hfirst] at hnone
          simp at hnone
        obtain rfl := Except.ok.inj h
        rw [NameTable.find?, List.lookup_cons, beq_false_of_ne hne]
        exact hfirst
      · split at h
        · obtain rfl := Except.ok.inj h
          exact hfirst
        · split at h <;> simp at h

/-- A name that is entered is there, as what it was entered for. -/
theorem find?_of_enter_name {table table' : NameTable}
    (h : enter file table (.name full kind) = .ok table') :
    ∃ first, table'.find? full = some first ∧ first.kind = kind ∧
      ∀ known, table.find? full = some known → known.kind = kind := by
  rw [enter] at h
  split at h
  · rename_i hnone
    obtain rfl := Except.ok.inj h
    refine ⟨⟨file, kind⟩, by simp [NameTable.find?], rfl, fun known hknown => ?_⟩
    rw [hnone] at hknown
    simp at hknown
  · rename_i first hfirst
    split at h
    · rename_i hpackages
      obtain rfl := Except.ok.inj h
      have hkind : first.kind = kind := hpackages.1.trans hpackages.2.symm
      refine ⟨first, hfirst, hkind, fun known hknown => ?_⟩
      obtain rfl := Option.some.inj (hfirst.symm.trans hknown)
      exact hkind
    · split at h <;> simp at h

/-- Later declarations of a name are for what the table has under it. -/
theorem kind_eq_of_known {table table' : NameTable} {ds : List Declaration} {first : Definition}
    (h : ds.foldlM (enter file) table = .ok table') (hfirst : table.find? full = some first)
    (hmem : .name full kind ∈ ds) : first.kind = kind := by
  induction ds generalizing table with
  | nil => simp at hmem
  | cons d ds ih =>
      rw [List.foldlM_cons] at h
      obtain ⟨next, hnext, h⟩ := (Outcome.bind_eq_ok_iff _ _ _).mp h
      rcases List.mem_cons.mp hmem with rfl | hmem
      · obtain ⟨-, -, -, hknown⟩ := find?_of_enter_name hnext
        exact hknown first hfirst
      · exact ih h (find?_of_enter hnext hfirst) hmem

/-- Of declarations that can all be entered, those of one name are for one thing. -/
theorem kind_unique_of_foldlM {table table' : NameTable} {ds : List Declaration}
    {kind' : NameKind} (h : ds.foldlM (enter file) table = .ok table')
    (hmem : .name full kind ∈ ds) (hmem' : .name full kind' ∈ ds) : kind = kind' := by
  induction ds generalizing table with
  | nil => simp at hmem
  | cons d ds ih =>
      rw [List.foldlM_cons] at h
      obtain ⟨next, hnext, hrest⟩ := (Outcome.bind_eq_ok_iff _ _ _).mp h
      rcases List.mem_cons.mp hmem with rfl | hlater
      · obtain ⟨first, hfirst, hkind, -⟩ := find?_of_enter_name hnext
        rcases List.mem_cons.mp hmem' with heq | hlater
        · exact (Declaration.name.inj heq).2.symm
        · exact hkind.symm.trans (kind_eq_of_known hrest hfirst hlater)
      · rcases List.mem_cons.mp hmem' with rfl | hlater'
        · obtain ⟨first, hfirst, hkind, -⟩ := find?_of_enter_name hnext
          exact (kind_eq_of_known hrest hfirst hlater).symm.trans hkind
        · exact ih hrest hlater hlater'

end Link

namespace Request

open Descriptor Link

variable {files : List FileDescriptor} (h : link files = .ok ()) {file : FileDescriptor}
  (hfile : file ∈ files)

include h hfile

theorem kind_unique_of_link {full : String} {kind kind' : NameKind}
    (hmem : .name full kind ∈ fileDeclarations file)
    (hmem' : .name full kind' ∈ fileDeclarations file) : kind = kind' := by
  obtain ⟨table, htable, -⟩ := (Outcome.bind_eq_ok_iff _ _ _).mp h
  obtain ⟨before, after, henter⟩ := Outcome.exists_of_foldlM_eq_ok _ _ _ _ htable file hfile
  exact kind_unique_of_foldlM henter hmem hmem'

omit h hfile in
/-- A message is declared under its path, and its enums under theirs. -/
theorem mem_fileDeclarations {path : List String} {m : MessageDescriptor}
    (hm : MessageAt file.messages path m) :
    .name (path.foldl Name.inScope file.package) (.message m.body) ∈ fileDeclarations file ∧
      ∀ e ∈ m.body.enums, .name ((path ++ [e.name]).foldl Name.inScope file.package) (.enum e) ∈
        fileDeclarations file := by
  obtain ⟨outer, hname, hsub⟩ :=
    exists_messageDeclarations_subset hm (usesProto2Rules file) file.package
  have hfile : messagesDeclarations (usesProto2Rules file) file.package file.messages ⊆
      fileDeclarations file := fun d hd => by simp [fileDeclarations, hd]
  obtain ⟨body, nested⟩ := m
  rw [← hname]
  refine ⟨hfile (hsub (by simp [messageDeclarations, MessageDescriptor.name])), fun e he => ?_⟩
  rw [List.foldl_concat, ← hname]
  refine hfile (hsub ?_)
  have hmem : .name (Name.inScope (Name.inScope outer body.name) e.name) (.enum e) ∈
      body.enums.flatMap (enumDeclarations (usesProto2Rules file) (Name.inScope outer body.name)) :=
    List.mem_flatMap.mpr ⟨e, he, List.mem_cons_self⟩
  simp [messageDeclarations, MessageDescriptor.name, hmem]

/-- Messages with one path are the same but for what is nested in them. -/
theorem body_eq_of_messageAt {path : List String} {m n : MessageDescriptor}
    (hm : MessageAt file.messages path m) (hn : MessageAt file.messages path n) :
    m.body = n.body :=
  NameKind.message.inj
    (kind_unique_of_link h hfile (mem_fileDeclarations hm).1 (mem_fileDeclarations hn).1)

theorem not_messageAt_of_enum {path : List String} {m n : MessageDescriptor}
    (hm : MessageAt file.messages path m) {e : EnumDescriptor} (he : e ∈ m.body.enums) :
    ¬MessageAt file.messages (path ++ [e.name]) n := by
  intro hn
  have hkind := kind_unique_of_link h hfile ((mem_fileDeclarations hm).2 e he)
    (mem_fileDeclarations hn).1
  simp at hkind

end Request

end Protogen
