import Protogen.Proofs.Generator.Declared
import Protogen.Proofs.Generator.Index
import Protogen.Proofs.Request.Accepted

/-!
# Files that link

What is known of every message in a set of files that links: its fields pass their checks
one after the other, so that those without a type name are of a scalar type and the oneofs
that they name are there. Unless the file is under the rules of proto2, no two fields are
alike but for underscores and capitals.
-/

namespace Protogen

namespace Request

open Descriptor Link Generator

theorem checkAll_eq_ok_iff {α : Type} (check : α → Checked) (xs : List α) :
    checkAll check xs = .ok () ↔ ∀ x ∈ xs, check x = .ok () := by
  induction xs with
  | nil => simp [checkAll]
  | cons x xs ih => rw [checkAll, Outcome.then_eq_ok_iff, List.forall_mem_cons, ih]

theorem exists_checkMessage_of_mem {view : View} {scope : String} {path : List Nat} {index : Nat}
    {ms : List MessageDescriptor} (h : checkMessages view scope path index ms = .ok ())
    {m : MessageDescriptor} (hm : m ∈ ms) : ∃ path', checkMessage view scope path' m = .ok () := by
  induction ms generalizing index with
  | nil => simp at hm
  | cons n ms ih =>
      rw [checkMessages] at h
      obtain ⟨hn, hms⟩ := (Outcome.then_eq_ok_iff _ _ _).mp h
      rcases List.mem_cons.mp hm with rfl | hm
      · exact ⟨_, hn⟩
      · exact ih hms hm

theorem checkFields_of_checkMessage {view : View} {scope : String} {path : List Nat}
    {m : MessageDescriptor} (h : checkMessage view scope path m = .ok ()) :
    checkFields view (Name.inScope scope m.name) path m.body ⟨[], []⟩ 0 m.body.fields = .ok () ∧
      checkMessages view (Name.inScope scope m.name) (path ++ [3]) 0 m.nested = .ok () := by
  obtain ⟨body, nested⟩ := m
  rw [checkMessage] at h
  obtain ⟨hfields, h⟩ := (Outcome.then_eq_ok_iff _ _ _).mp h
  obtain ⟨hnested, -⟩ := (Outcome.then_eq_ok_iff _ _ _).mp h
  exact ⟨hfields, hnested⟩

theorem exists_checkFields_of_messageAt {view : View} {ms : List MessageDescriptor}
    {names : List String} {m : MessageDescriptor} (hm : MessageAt ms names m) (scope : String)
    (path : List Nat) (index : Nat) (h : checkMessages view scope path index ms = .ok ()) :
    ∃ full path', checkFields view full path' m.body ⟨[], []⟩ 0 m.body.fields = .ok () := by
  induction hm generalizing scope path index with
  | here hm =>
      obtain ⟨path', hcheck⟩ := exists_checkMessage_of_mem h hm
      exact ⟨_, _, (checkFields_of_checkMessage hcheck).1⟩
  | inside hm _ ih =>
      obtain ⟨path', hcheck⟩ := exists_checkMessage_of_mem h hm
      exact ih _ _ _ (checkFields_of_checkMessage hcheck).2

theorem exists_checkField_of_mem {view : View} {full : String} {path : List Nat} {m : MessageBody}
    {used : UsedFields} {index : Nat} {fs : List FieldDescriptor}
    (h : checkFields view full path m used index fs = .ok ()) {f : FieldDescriptor}
    (hf : f ∈ fs) : ∃ path' used', checkField view full path' m used' f = .ok () := by
  induction fs generalizing used index with
  | nil => simp at hf
  | cons g fs ih =>
      obtain ⟨hg, hfs⟩ := (Outcome.then_eq_ok_iff _ _ _).mp h
      rcases List.mem_cons.mp hf with rfl | hf
      · exact ⟨_, _, hg⟩
      · exact ih hfs hf

/-- In files that link, every field of a message has passed its checks. -/
theorem exists_checkField_of_link {files : List FileDescriptor} (h : link files = .ok ())
    {file : FileDescriptor} (hfile : file ∈ files) {names : List String} {m : MessageDescriptor}
    (hm : MessageAt file.messages names m) {f : FieldDescriptor} (hf : f ∈ m.body.fields) :
    ∃ view full path used, checkField view full path m.body used f = .ok () := by
  obtain ⟨table, -, h⟩ := (Outcome.bind_eq_ok_iff _ _ _).mp h
  obtain ⟨hall, -⟩ := (Outcome.then_eq_ok_iff _ _ _).mp h
  have hcheck := (checkAll_eq_ok_iff _ _).mp hall file hfile
  obtain ⟨-, hcheck⟩ := (Outcome.then_eq_ok_iff _ _ _).mp hcheck
  obtain ⟨hmessages, -⟩ := (Outcome.then_eq_ok_iff _ _ _).mp hcheck
  obtain ⟨full, path, hfields⟩ := exists_checkFields_of_messageAt hm _ _ _ hmessages
  obtain ⟨path', used, hfield⟩ := exists_checkField_of_mem hfields hf
  exact ⟨_, full, path', used, hfield⟩

/-- The checks of a field, whichever range its number is taken from. -/
theorem of_checkField {view : View} {full : String} {path : List Nat} {m : MessageBody}
    {used : UsedFields} {f : FieldDescriptor} (h : checkField view full path m used f = .ok ()) :
    (∃ type, linkType view (Name.inScope full f.name) path f = .ok type) ∧
      checkOneofIndex m f = .ok () := by
  rw [checkField] at h
  split at h
  all_goals
    obtain ⟨-, h⟩ := (Outcome.then_eq_ok_iff _ _ _).mp h
    obtain ⟨type, htype, h⟩ := (Outcome.bind_eq_ok_iff _ _ _).mp h
    obtain ⟨-, h⟩ := (Outcome.then_eq_ok_iff _ _ _).mp h
    exact ⟨⟨type, htype⟩, ((Outcome.then_eq_ok_iff _ _ _).mp h).1⟩

/-- A field that names no type has a scalar type. -/
def IsTyped (f : FieldDescriptor) : Prop := f.typeName = "" → ∃ type, f.type = .scalar type

theorem isTyped_of_linkType (view : View) (scope : String) (path : List Nat)
    (f : FieldDescriptor) (type : LinkedType) (h : linkType view scope path f = .ok type) :
    IsTyped f := by
  intro hempty
  rw [linkType, if_pos (by simpa using hempty)] at h
  cases htype : f.type with
  | scalar type => exact ⟨type, rfl⟩
  | message => simp [htype] at h
  | enum => simp [htype] at h
  | group => simp [htype] at h

theorem isTyped_of_link {files : List FileDescriptor} (h : link files = .ok ())
    {file : FileDescriptor} (hfile : file ∈ files) {p : String × FieldDescriptor}
    (hp : p ∈ fileFields file) : IsTyped p.2 := by
  obtain ⟨names, m, hm, hf, -⟩ := (mem_fileFields_iff file p.1 p.2).mp hp
  obtain ⟨view, full, path, used, hfield⟩ := exists_checkField_of_link h hfile hm hf
  obtain ⟨type, htype⟩ := (of_checkField hfield).1
  exact isTyped_of_linkType _ _ _ _ type htype

/-- In an accepted request a message or enum field names a type that is defined. -/
theorem exists_resolveType?_of_valid (q : GeneratorRequest) (hq : validate q = .ok ())
    (file : FileDescriptor) (hfile : file ∈ q.files) (p : String × FieldDescriptor)
    (hp : p ∈ fileFields file) (htype : p.2.type = .message ∨ p.2.type = .enum) :
    ∃ t, resolveType? (definedTypes q.files) p.1 p.2.typeName = some t := by
  obtain ⟨-, -, -, -, hresolves, hlink⟩ := (validate_eq_ok_iff q).mp hq
  rcases hresolves file hfile p hp with hempty | hsome
  · obtain ⟨type, hscalar⟩ := isTyped_of_link hlink hfile hp hempty
    rw [hscalar] at htype
    simp at htype
  · exact Option.isSome_iff_exists.mp hsome

theorem checkOneofIndex_eq_ok_iff (m : MessageBody) (f : FieldDescriptor) :
    checkOneofIndex m f = .ok () ↔
      ∀ index ∈ f.oneofIndex?, 0 ≤ index.toInt ∧ index.toInt < m.oneofs.length := by
  rw [checkOneofIndex]
  cases f.oneofIndex? with
  | none => simp
  | some index => simp [require]

/-- In files that link, fields are in oneofs that are there. -/
theorem oneofsInRange_of_link {files : List FileDescriptor} (h : link files = .ok ())
    {file : FileDescriptor} (hfile : file ∈ files) {names : List String} {m : MessageDescriptor}
    (hm : MessageAt file.messages names m) : OneofsInRange m.body := by
  intro f hf
  obtain ⟨view, full, path, used, hfield⟩ := exists_checkField_of_link h hfile hm hf
  exact (checkOneofIndex_eq_ok_iff m.body f).mp (of_checkField hfield).2

/-- Names without conflicts have distinct keys. -/
theorem nodup_of_camelConflicts (seen names : List String) (h : camelConflicts seen names = []) :
    (names.map camelKey).Nodup ∧ ∀ name ∈ names, ∀ s ∈ seen, camelKey s ≠ camelKey name := by
  induction names generalizing seen with
  | nil => simp
  | cons name names ih =>
      rw [camelConflicts] at h
      split at h
      · simp at h
      · rename_i hnone
        obtain ⟨hnodup, hseen⟩ := ih _ h
        have hname : ∀ s ∈ seen, camelKey s ≠ camelKey name := by
          simpa using List.find?_eq_none.mp hnone
        rw [List.map_cons, List.nodup_cons, List.forall_mem_cons]
        refine ⟨⟨fun hmem => ?_, hnodup⟩, hname, fun other hother s hs => ?_⟩
        · obtain ⟨other, hother, hkey⟩ := List.mem_map.mp hmem
          exact hseen other hother name (by simp) hkey.symm
        · exact hseen other hother s (List.mem_append_left _ hs)

theorem messageDeclarations_subset {proto2 : Bool} {scope : String} {m : MessageDescriptor}
    {ms : List MessageDescriptor} (hm : m ∈ ms) :
    messageDeclarations proto2 scope m ⊆ messagesDeclarations proto2 scope ms := by
  induction ms with
  | nil => simp at hm
  | cons n ms ih =>
      rw [messagesDeclarations]
      rcases List.mem_cons.mp hm with rfl | hm
      · exact List.subset_append_left _ _
      · exact List.subset_append_of_subset_right _ (ih hm)

/-- The declarations of a message below others are among theirs, under the name that its path
gives it. -/
theorem exists_messageDeclarations_subset {ms : List MessageDescriptor} {path : List String}
    {m : MessageDescriptor} (hm : MessageAt ms path m) (proto2 : Bool) (scope : String) :
    ∃ outer, Name.inScope outer m.name = path.foldl Name.inScope scope ∧
      messageDeclarations proto2 outer m ⊆ messagesDeclarations proto2 scope ms := by
  induction hm generalizing scope with
  | here hm => exact ⟨scope, rfl, messageDeclarations_subset hm⟩
  | @inside ms m n path hm _ ih =>
      obtain ⟨outer, hname, hsub⟩ := ih (Name.inScope scope m.name)
      refine ⟨outer, hname, List.Subset.trans hsub ?_⟩
      refine List.Subset.trans ?_ (messageDeclarations_subset hm)
      obtain ⟨body, nested⟩ := m
      intro d hd
      have hd : d ∈ messagesDeclarations proto2 (Name.inScope scope body.name) nested := hd
      simp [messageDeclarations, hd]

/-- In files that link, and that are not under the rules of proto2, the keys of the fields
of a message are distinct. -/
theorem camelKeys_nodup_of_link {files : List FileDescriptor} (h : link files = .ok ())
    {file : FileDescriptor} (hfile : file ∈ files) (hrules : usesProto2Rules file = false)
    {path : List String} {m : MessageDescriptor} (hm : MessageAt file.messages path m) :
    (m.body.fields.map fun f => camelKey f.name).Nodup := by
  obtain ⟨table, htable, -⟩ := (Outcome.bind_eq_ok_iff _ _ _).mp h
  obtain ⟨before, after, henter⟩ := Outcome.exists_of_foldlM_eq_ok _ _ _ _ htable file hfile
  have hnofault (e : LinkError) : .fault e ∉ fileDeclarations file := by
    intro hmem
    obtain ⟨_, _, hfault⟩ := Outcome.exists_of_foldlM_eq_ok _ _ _ _ henter _ hmem
    simp [NameTable.enter] at hfault
  have hconflicts : camelConflicts [] (m.body.fields.map FieldDescriptor.name) = [] := by
    refine List.eq_nil_iff_forall_not_mem.mpr fun p hp => hnofault (.camelCaseConflict p.1 p.2) ?_
    have hfault : .fault (.camelCaseConflict p.1 p.2) ∈ camelFaults false m.body :=
      List.mem_map.mpr ⟨p, hp, rfl⟩
    obtain ⟨outer, -, hsub⟩ := exists_messageDeclarations_subset hm false file.package
    have hmem : .fault (.camelCaseConflict p.1 p.2) ∈ messageDeclarations false outer m := by
      obtain ⟨body, nested⟩ := m
      simp [messageDeclarations, hfault]
    rw [fileDeclarations, hrules]
    simp [hsub hmem]
  simpa [Function.comp_def] using (nodup_of_camelConflicts _ _ hconflicts).1

end Request

end Protogen
