import Mathlib.Data.List.Nodup
import Protogen.Generator.TypeIndex
import Protogen.Proofs.Descriptor.Nesting
import Protogen.Proofs.Request.References

/-!
# The types of a request by name

The index of a request has one entry for each message and each enum of its files,
in the order in which the check of the request names them. An entry is found under
the full name without the empty components of the package, so a name of the check
finds its entry only if the package has none.
-/

namespace Protogen

namespace Generator

open Descriptor Request

@[simp] theorem dotted_nil : dotted [] = "" := rfl

@[simp] theorem dotted_append (parts parts' : List String) :
    dotted (parts ++ parts') = dotted parts ++ dotted parts' := by
  simp [dotted]

@[simp] theorem dotted_cons (part : String) (parts : List String) :
    dotted (part :: parts) = "." ++ part ++ dotted parts := by
  simp [dotted]

/-- The full name of a type as the check of a request has it. -/
def TypeInfo.definedName (info : TypeInfo) : String := packageScope info.package ++ dotted info.path

/-- The entry `t` is that of the message at `path`, or of an enum in it. -/
def Enters (file : FileDescriptor) (path : List String) (m : MessageDescriptor)
    (t : String × TypeInfo) : Prop :=
  t = indexed file path .message (mapEntryFields? m.body) ∨
    ∃ e ∈ m.body.enums, t = enumIndex file path e

mutual

theorem mem_messageIndex_iff (file : FileDescriptor) (t : String × TypeInfo) :
    ∀ (parents : List String) (m : MessageDescriptor), t ∈ messageIndex file parents m ↔
      ∃ path n, MessageAt [m] path n ∧ Enters file (parents ++ path) n t
  | parents, ⟨body, nested⟩ => by
      have ih := mem_messagesIndex_iff file t (parents ++ [body.name]) nested
      rw [messageIndex, List.mem_append, List.mem_append, ih]
      constructor
      · rintro ((⟨path, n, hn, ht⟩ | ht) | ht)
        · refine ⟨body.name :: path, n, MessageAt.singleton_iff.mpr (.inr ⟨path, rfl, hn⟩), ?_⟩
          simpa using ht
        · obtain ⟨e, he, rfl⟩ := List.mem_map.mp ht
          exact ⟨[body.name], ⟨body, nested⟩, .self _, .inr ⟨e, he, rfl⟩⟩
        · obtain rfl := List.mem_singleton.mp ht
          exact ⟨[body.name], ⟨body, nested⟩, .self _, .inl rfl⟩
      · rintro ⟨path, n, hn, ht⟩
        rcases MessageAt.singleton_iff.mp hn with ⟨rfl, rfl⟩ | ⟨rest, rfl, hrest⟩
        · rcases ht with rfl | ⟨e, he, rfl⟩
          · exact .inr (by simp [MessageDescriptor.name])
          · exact .inl (.inr (List.mem_map_of_mem he))
        · refine .inl (.inl ⟨rest, n, hrest, ?_⟩)
          simpa [MessageDescriptor.name] using ht

theorem mem_messagesIndex_iff (file : FileDescriptor) (t : String × TypeInfo) :
    ∀ (parents : List String) (ms : List MessageDescriptor), t ∈ messagesIndex file parents ms ↔
      ∃ path n, MessageAt ms path n ∧ Enters file (parents ++ path) n t
  | parents, [] => by simp [messagesIndex, MessageAt.not_nil]
  | parents, m :: ms => by
      have ihm := mem_messageIndex_iff file t parents m
      have ihms := mem_messagesIndex_iff file t parents ms
      rw [messagesIndex, List.mem_append, ihm, ihms]
      simp only [MessageAt.cons_iff m ms, or_and_right, exists_or]

end

mutual

theorem mem_messageFields_iff (f : FieldDescriptor) (s : String) :
    ∀ (scope : String) (m : MessageDescriptor), (s, f) ∈ messageFields scope m ↔
      ∃ path n, MessageAt [m] path n ∧ f ∈ n.body.fields ∧ s = scope ++ dotted path
  | scope, ⟨body, nested⟩ => by
      have ih := mem_messagesFields_iff f s (scope ++ "." ++ body.name) nested
      rw [messageFields, List.mem_append, ih]
      constructor
      · rintro (h | ⟨path, n, hn, hf, rfl⟩)
        · obtain ⟨g, hg, heq⟩ := List.mem_map.mp h
          obtain ⟨rfl, rfl⟩ := Prod.mk.inj heq
          exact ⟨[body.name], ⟨body, nested⟩, .self _, hg, by simp [String.append_assoc]⟩
        · exact ⟨body.name :: path, n, MessageAt.singleton_iff.mpr (.inr ⟨path, rfl, hn⟩), hf,
            by simp [String.append_assoc]⟩
      · rintro ⟨path, n, hn, hf, rfl⟩
        rcases MessageAt.singleton_iff.mp hn with ⟨rfl, rfl⟩ | ⟨rest, rfl, hrest⟩
        · refine .inl (List.mem_map.mpr ⟨f, hf, ?_⟩)
          simp [MessageDescriptor.name, String.append_assoc]
        · refine .inr ⟨rest, n, hrest, hf, ?_⟩
          simp [MessageDescriptor.name, String.append_assoc]

theorem mem_messagesFields_iff (f : FieldDescriptor) (s : String) :
    ∀ (scope : String) (ms : List MessageDescriptor), (s, f) ∈ messagesFields scope ms ↔
      ∃ path n, MessageAt ms path n ∧ f ∈ n.body.fields ∧ s = scope ++ dotted path
  | scope, [] => by simp [messagesFields, MessageAt.not_nil]
  | scope, m :: ms => by
      have ihm := mem_messageFields_iff f s scope m
      have ihms := mem_messagesFields_iff f s scope ms
      rw [messagesFields, List.mem_append, ihm, ihms]
      simp only [MessageAt.cons_iff m ms, or_and_right, exists_or]

end

mutual

theorem definedByMessage_eq_index (file : FileDescriptor) : ∀ (parents : List String)
    (m : MessageDescriptor), definedByMessage (packageScope file.package ++ dotted parents) m =
      (messageIndex file parents m).map fun t => t.2.definedName
  | parents, ⟨body, nested⟩ => by
      have ih := definedByMessages_eq_index file (parents ++ [body.name]) nested
      rw [dotted_append, ← String.append_assoc] at ih
      have hname : dotted [body.name] = "." ++ body.name := by simp
      rw [hname, ← String.append_assoc] at ih
      rw [definedByMessage, messageIndex, List.map_append, List.map_append, ih]
      simp [enumIndex, indexed, TypeInfo.definedName, Function.comp_def, String.append_assoc]

theorem definedByMessages_eq_index (file : FileDescriptor) : ∀ (parents : List String)
    (ms : List MessageDescriptor),
      definedByMessages (packageScope file.package ++ dotted parents) ms =
        (messagesIndex file parents ms).map fun t => t.2.definedName
  | parents, [] => rfl
  | parents, m :: ms => by
      have ihm := definedByMessage_eq_index file parents m
      have ihms := definedByMessages_eq_index file parents ms
      rw [definedByMessages, messagesIndex, List.map_append, ihm, ihms]

end

theorem definedByFile_eq_index (file : FileDescriptor) :
    definedByFile file = (fileIndex file).map fun t => t.2.definedName := by
  have hmessages := definedByMessages_eq_index file [] file.messages
  rw [dotted_nil, String.append_empty] at hmessages
  rw [definedByFile, fileIndex, List.map_append, hmessages]
  simp [enumIndex, indexed, TypeInfo.definedName, Function.comp_def, String.append_assoc]

/-- The check of a request names the types in the order of the index. -/
theorem definedTypes_eq_index (files : List FileDescriptor) :
    definedTypes files = (TypeIndex.ofFiles files).map fun t => t.2.definedName := by
  rw [definedTypes, TypeIndex.ofFiles, List.map_flatMap]
  exact congrArg (files.flatMap ·) (funext definedByFile_eq_index)

theorem mem_fileIndex_iff (file : FileDescriptor) (t : String × TypeInfo) :
    t ∈ fileIndex file ↔
      (∃ path m, MessageAt file.messages path m ∧ Enters file path m t) ∨
        ∃ e ∈ file.enums, t = enumIndex file [] e := by
  rw [fileIndex, List.mem_append, mem_messagesIndex_iff, List.mem_map]
  simp only [List.nil_append, eq_comm (a := t)]

theorem mem_fileFields_iff (file : FileDescriptor) (s : String) (f : FieldDescriptor) :
    (s, f) ∈ fileFields file ↔
      ∃ path m, MessageAt file.messages path m ∧ f ∈ m.body.fields ∧
        s = packageScope file.package ++ dotted path :=
  mem_messagesFields_iff f s _ _

/-- An entry of a file is about something that has a name and lies in the file. -/
theorem indexed_of_mem (file : FileDescriptor) (t : String × TypeInfo)
    (h : t ∈ fileIndex file) :
    ∃ path kind mapFields?, path ≠ [] ∧ t = indexed file path kind mapFields? := by
  rcases (mem_fileIndex_iff file t).mp h with ⟨path, m, hm, ht⟩ | ⟨e, he, rfl⟩
  · rcases ht with rfl | ⟨e, he, rfl⟩
    · exact ⟨path, _, _, hm.path_ne_nil, rfl⟩
    · exact ⟨path ++ [e.name], _, _, by simp, rfl⟩
  · exact ⟨[] ++ [e.name], _, _, by simp, rfl⟩

/-- The key and the value of an entry are fields in the scope of its type. -/
theorem mapFields_mem (file : FileDescriptor) (t : String × TypeInfo) (h : t ∈ fileIndex file)
    (key value : FieldDescriptor) (hmap : t.2.mapFields? = some (key, value)) :
    (t.2.definedName, value) ∈ fileFields file := by
  rcases (mem_fileIndex_iff file t).mp h with ⟨path, m, hm, rfl | ⟨e, he, rfl⟩⟩ | ⟨e, he, rfl⟩
  · have hvalue : value ∈ m.body.fields := by
      simp only [indexed, mapEntryFields?] at hmap
      split at hmap
      · split at hmap
        · rename_i hkey hfound
          obtain ⟨rfl, rfl⟩ := Prod.mk.inj (Option.some.inj hmap)
          exact List.mem_of_find?_eq_some hfound
        · simp at hmap
      · simp at hmap
    exact (mem_fileFields_iff file _ value).mpr ⟨path, m, hm, hvalue, rfl⟩
  · simp [enumIndex, indexed] at hmap
  · simp [enumIndex, indexed] at hmap

namespace TypeIndex

theorem mem_ofFiles_iff (files : List FileDescriptor) (t : String × TypeInfo) :
    t ∈ ofFiles files ↔ ∃ file ∈ files, t ∈ fileIndex file := List.mem_flatMap

theorem mem_of_find? (types : TypeIndex) (name : String) (info : TypeInfo)
    (h : types.find? name = some info) : (name, info) ∈ types := by
  obtain ⟨t, ht, rfl⟩ := Option.map_eq_some_iff.mp h
  obtain ⟨hmem, hname⟩ := List.mem_filter.mp (List.mem_of_getLast? ht)
  obtain rfl := eq_of_beq hname
  exact hmem

theorem exists_find?_of_mem (types : TypeIndex) (name : String) (info : TypeInfo)
    (h : (name, info) ∈ types) : ∃ found, types.find? name = some found := by
  have hmem : (name, info) ∈ types.filter fun t => t.1 == name :=
    List.mem_filter.mpr ⟨h, beq_self_eq_true name⟩
  cases hlast : (types.filter fun t => t.1 == name).getLast? with
  | none =>
      rw [List.getLast?_eq_none_iff.mp hlast] at hmem
      simp at hmem
  | some t => exact ⟨t.2, by rw [find?, hlast]; rfl⟩

/-- If no two entries have one name, every entry is found. -/
theorem find?_of_mem (types : TypeIndex) (name : String) (info : TypeInfo)
    (hnodup : (types.map Prod.fst).Nodup) (h : (name, info) ∈ types) :
    types.find? name = some info := by
  obtain ⟨found, hfound⟩ := exists_find?_of_mem types name info h
  have heq := List.inj_on_of_nodup_map hnodup (mem_of_find? types name found hfound) h rfl
  rw [hfound, (Prod.mk.inj heq).2]

end TypeIndex

/-- A package of which no component is empty. -/
def IsPlainPackage (package : String) : Prop :=
  package = "" ∨ ∀ part ∈ package.toList.splitOn '.', part ≠ []

theorem toList_dotted (parts : List String) :
    (dotted parts).toList = ['.'].intercalate ([] :: parts.map String.toList) := by
  have hdot : ".".toList = ['.'] := rfl
  induction parts with
  | nil => rfl
  | cons part parts ih =>
      rw [dotted_cons, String.toList_append, ih]
      cases parts with
      | nil => simp [hdot]
      | cons next rest => simp [hdot]

theorem dotted_splitOn (package : String) :
    dotted ((package.toList.splitOn '.').map String.ofList) = "." ++ package := by
  have hdot : ".".toList = ['.'] := rfl
  have hjoin : ['.'].intercalate (package.toList.splitOn '.') = package.toList :=
    List.intercalate_splitOn '.'
  obtain ⟨part, parts, heq⟩ := List.exists_cons_of_ne_nil
    (List.splitOn_ne_nil '.' package.toList)
  rw [heq] at hjoin ⊢
  rw [← String.toList_inj, toList_dotted, String.toList_append, hdot, ← hjoin]
  simp

theorem length_dotted (parts : List (List Char)) :
    (dotted (parts.map String.ofList)).length = parts.flatten.length + parts.length := by
  have hdot : ".".length = 1 := rfl
  induction parts with
  | nil => rfl
  | cons part parts ih =>
      simp only [List.map_cons, dotted_cons, String.length_append, String.length_ofList, ih,
        List.flatten_cons, List.length_append, List.length_cons]
      omega

/-- The index keeps the name of a package as it is only if the package is plain. -/
theorem dotted_packageParts_eq_iff (package : String) :
    dotted (packageParts package) = packageScope package ↔ IsPlainPackage package := by
  by_cases hempty : package = ""
  · simp [hempty, IsPlainPackage, packageParts, packageScope]
  have hscope : packageScope package =
      dotted ((package.toList.splitOn '.').map String.ofList) := by
    rw [dotted_splitOn, packageScope, if_neg (by simpa using hempty)]
  rw [hscope, packageParts, IsPlainPackage]
  constructor
  · intro h
    have hlength := congrArg String.length h
    rw [length_dotted, length_dotted, List.flatten_filter_not_isEmpty, Nat.add_left_cancel_iff,
      List.length_filter_eq_length_iff] at hlength
    exact .inr fun part hpart => by simpa using hlength part hpart
  · rintro (h | h)
    · exact absurd h hempty
    · rw [List.filter_eq_self.mpr fun part hpart => by simpa using h part hpart]

/-- An entry is under the name that the check of the request gives it exactly if
its package is plain. -/
theorem definedName_eq_iff (info : TypeInfo) :
    info.definedName = fullName info.package info.path ↔ IsPlainPackage info.package := by
  rw [TypeInfo.definedName, fullName, dotted_append, String.append_left_inj, eq_comm,
    dotted_packageParts_eq_iff]

theorem isAbsolute_fullName (package : String) (path : List String) (hne : path ≠ []) :
    IsAbsolute (fullName package path) := by
  have hparts : packageParts package ++ path ≠ [] := by simp [hne]
  obtain ⟨part, parts, heq⟩ := List.exists_cons_of_ne_nil hparts
  have hdot : ".".toList = ['.'] := rfl
  rw [IsAbsolute, fullName, heq, dotted_cons]
  simp [hdot]

end Generator

end Protogen
