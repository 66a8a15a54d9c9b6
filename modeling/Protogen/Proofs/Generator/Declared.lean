import Mathlib.Data.List.Nodup
import Protogen.Generator.Message
import Protogen.Proofs.Descriptor.Nesting
import Protogen.Proofs.Request.References

/-!
# What a file declares

The messages, oneofs and enums for which something is generated, in the order in which it
is: a message, its oneofs, the messages nested in it, its enums. A map entry that is nested
in a message is left out with everything in it, and so is a oneof without members of its
own, which only stands for an optional field. The fields of a message are divided among
the message itself and its oneofs.
-/

namespace Protogen

namespace Generator

open Descriptor

/-- The fields that become members of the structure itself. -/
def plainFields (m : MessageBody) : List FieldDescriptor :=
  m.fields.filter fun f => !f.isOneofMember

/-- The oneofs that have members, each with its index. -/
def spelledOneofs (m : MessageBody) : List (OneofDescriptor × Nat) :=
  m.oneofs.zipIdx.filter fun p => !(oneofMembers m p.2).isEmpty

/-- Something that is generated on its own, with the names of the messages around it; for
a oneof, of those around its message. -/
inductive Declared
  | message (outer : List String) (m : MessageBody)
  | oneof (outer : List String) (m : MessageBody) (o : OneofDescriptor) (index : Nat)
  | enum (outer : List String) (e : EnumDescriptor)

mutual

def declaredBy (outer : List String) : MessageDescriptor → List Declared
  | ⟨m, nested⟩ =>
    .message outer m :: ((spelledOneofs m).map (fun p => .oneof outer m p.1 p.2) ++
      declaredIn (outer ++ [m.name]) nested ++ m.enums.map (.enum (outer ++ [m.name])))

/-- What is declared by the messages that are nested in others. -/
def declaredIn (outer : List String) : List MessageDescriptor → List Declared
  | [] => []
  | m :: ms =>
    if m.isMapEntry then declaredIn outer ms else declaredBy outer m ++ declaredIn outer ms

end

def declaredByFile (file : FileDescriptor) : List Declared :=
  file.messages.flatMap (declaredBy []) ++ file.enums.map (.enum [])

/-- A field that is in a oneof is in one that the message has. -/
def OneofsInRange (m : MessageBody) : Prop :=
  ∀ f ∈ m.fields, ∀ index ∈ f.oneofIndex?, 0 ≤ index.toInt ∧ index.toInt < m.oneofs.length

instance (m : MessageBody) : Decidable (OneofsInRange m) :=
  decidable_of_iff ((m.fields.all fun f => f.oneofIndex?.all fun index =>
    decide (0 ≤ index.toInt) && decide (index.toInt < (m.oneofs.length : Int))) = true)
    (by simp [OneofsInRange, Option.all_eq_true])

theorem plainFields_sublist (m : MessageBody) : (plainFields m).Sublist m.fields :=
  List.filter_sublist

theorem mem_plainFields_iff (m : MessageBody) (f : FieldDescriptor) :
    f ∈ plainFields m ↔ f ∈ m.fields ∧ (f.oneofIndex? = none ∨ f.isProto3Optional) := by
  rw [plainFields, List.mem_filter, FieldDescriptor.isOneofMember]
  cases f.oneofIndex? <;> simp

theorem mem_oneofMembers_iff (m : MessageBody) (index : Nat) (f : FieldDescriptor) :
    f ∈ oneofMembers m index ↔
      f ∈ m.fields ∧ f.isOneofMember ∧ f.oneofIndex?.map Int32.toInt = some (Int.ofNat index) := by
  rw [oneofMembers, List.mem_filter, Bool.and_eq_true, beq_iff_eq]

/-- A list is divided by a key into as many parts as there are keys. -/
theorem flatMap_filter_perm {α κ : Type} [BEq κ] [LawfulBEq κ] (key : α → κ) (keys : List κ)
    (hnodup : keys.Nodup) (xs : List α) (hkeys : ∀ x ∈ xs, key x ∈ keys) :
    (keys.flatMap fun k => xs.filter fun x => key x == k).Perm xs := by
  induction keys generalizing xs with
  | nil =>
      have hnil : xs = [] := List.eq_nil_iff_forall_not_mem.mpr fun x hx =>
        List.not_mem_nil (hkeys x hx)
      rw [hnil]
      exact .refl _
  | cons k keys ih =>
      obtain ⟨hk, hnodup⟩ := List.nodup_cons.mp hnodup
      have hothers := ih hnodup (xs.filter fun x => !(key x == k)) fun x hx => by
        obtain ⟨hmem, hne⟩ := List.mem_filter.mp hx
        exact (List.mem_cons.mp (hkeys x hmem)).resolve_left (by simpa using hne)
      have hrest : (keys.flatMap fun l => xs.filter fun x => key x == l) =
          keys.flatMap fun l => (xs.filter fun x => !(key x == k)).filter fun x => key x == l := by
        refine List.flatMap_congr fun l hl => ?_
        have hne : l ≠ k := ne_of_mem_of_not_mem hl hk
        rw [List.filter_filter]
        refine List.filter_congr fun x _ => ?_
        by_cases hx : key x = l
        · simp [hx, hne]
        · simp [hx]
      rw [List.flatMap_cons, hrest]
      exact (hothers.append_left _).trans (List.filter_append_perm _ _)

/-- The members of the oneofs that have any are the members of all oneofs. -/
theorem flatMap_spelledOneofs (m : MessageBody) :
    ((spelledOneofs m).flatMap fun p => oneofMembers m p.2) =
      (List.range m.oneofs.length).flatMap (oneofMembers m) := by
  have hempty (ps : List (OneofDescriptor × Nat)) :
      ((ps.filter fun p => !(oneofMembers m p.2).isEmpty).flatMap fun p => oneofMembers m p.2) =
        (ps.map Prod.snd).flatMap (oneofMembers m) := by
    induction ps with
    | nil => rfl
    | cons p ps ih =>
        rw [List.map_cons, List.flatMap_cons, ← ih]
        cases hp : (oneofMembers m p.2).isEmpty with
        | true =>
            rw [List.filter_cons_of_neg (by simp [hp]), List.isEmpty_iff.mp hp, List.nil_append]
        | false => rw [List.filter_cons_of_pos (by simp [hp]), List.flatMap_cons]
  rw [spelledOneofs, hempty, List.zipIdx_map_snd, List.range_eq_range']

/-- Every field of a message is either plain or in one of the oneofs, and only there. -/
theorem fields_perm (m : MessageBody) (h : OneofsInRange m) :
    (plainFields m ++ (spelledOneofs m).flatMap fun p => oneofMembers m p.2).Perm m.fields := by
  let key (f : FieldDescriptor) : Option Int := f.oneofIndex?.map Int32.toInt
  let members := m.fields.filter FieldDescriptor.isOneofMember
  let keys := (List.range m.oneofs.length).map fun index => some (Int.ofNat index)
  have hnodup : keys.Nodup := by
    refine List.Nodup.map (fun i j hij => ?_) List.nodup_range
    exact Int.ofNat.inj (Option.some.inj hij)
  have hkeys : ∀ f ∈ members, key f ∈ keys := by
    intro f hf
    obtain ⟨hmem, hone⟩ := List.mem_filter.mp hf
    obtain ⟨index, hindex⟩ := Option.isSome_iff_exists.mp (Bool.and_eq_true_iff.mp hone).1
    obtain ⟨hpos, hlt⟩ := h f hmem index hindex
    refine List.mem_map.mpr ⟨index.toInt.toNat, List.mem_range.mpr (by omega), ?_⟩
    simp only [key, hindex, Option.map_some, Option.some.injEq, Int.ofNat_eq_natCast]
    omega
  have hparts : (List.range m.oneofs.length).flatMap (oneofMembers m) =
      keys.flatMap fun k => members.filter fun f => key f == k := by
    rw [List.flatMap_map]
    refine List.flatMap_congr fun index _ => ?_
    rw [List.filter_filter, oneofMembers]
    exact List.filter_congr fun f _ => Bool.and_comm _ _
  rw [flatMap_spelledOneofs, hparts]
  refine ((flatMap_filter_perm key keys hnodup members hkeys).append_left _).trans ?_
  exact List.perm_append_comm.trans (List.filter_append_perm _ _)

theorem exists_spelledOneof_of_isOneofMember {m : MessageBody} (h : OneofsInRange m)
    {f : FieldDescriptor} (hf : f ∈ m.fields) (hone : f.isOneofMember) :
    ∃ p ∈ spelledOneofs m, f ∈ oneofMembers m p.2 := by
  rcases List.mem_append.mp ((fields_perm m h).mem_iff.mpr hf) with hplain | hmember
  · have hnot := (List.mem_filter.mp hplain).2
    simp [hone] at hnot
  · exact List.mem_flatMap.mp hmember

/-- The message is at the top of the file, or nested in such a message and no map entry.
The names are those of the messages around it. -/
inductive EmittedAt (file : FileDescriptor) : List String → MessageDescriptor → Prop
  | top {m : MessageDescriptor} : m ∈ file.messages → EmittedAt file [] m
  | nested {outer : List String} {m n : MessageDescriptor} : EmittedAt file outer m →
      n ∈ m.nested → n.isMapEntry = false → EmittedAt file (outer ++ [m.name]) n

theorem EmittedAt.messageAt {file : FileDescriptor} {outer : List String} {m : MessageDescriptor}
    (h : EmittedAt file outer m) : MessageAt file.messages (outer ++ [m.name]) m := by
  induction h with
  | top hm => exact .here hm
  | nested _ hn _ ih => exact ih.nested hn

/-- In the file of a track everything but the track itself is empty. -/
theorem emittedAt_trackFile {typeName : String} {outer : List String} {m : MessageDescriptor}
    (h : EmittedAt (Request.trackFile typeName) outer m) :
    outer = [] ∧ m ∈ (Request.trackFile typeName).messages ∨
      m = ⟨{ MessageBody.blank with name? := some "Point" }, []⟩ := by
  induction h with
  | top hm => exact .inl ⟨rfl, hm⟩
  | nested _ hn _ ih =>
      rcases ih with ⟨-, hm⟩ | rfl
      · obtain rfl := List.mem_singleton.mp hm
        exact .inr (List.mem_singleton.mp hn)
      · simp at hn

/-- What is declared by a message, without the messages nested in it. -/
inductive DeclaredOf (outer : List String) (m : MessageDescriptor) : Declared → Prop
  | message : DeclaredOf outer m (.message outer m.body)
  | oneof {p : OneofDescriptor × Nat} : p ∈ spelledOneofs m.body →
      DeclaredOf outer m (.oneof outer m.body p.1 p.2)
  | enum {e : EnumDescriptor} : e ∈ m.body.enums → DeclaredOf outer m (.enum (outer ++ [m.name]) e)

theorem mem_declaredBy_iff (outer : List String) (m : MessageDescriptor) (d : Declared) :
    d ∈ declaredBy outer m ↔
      DeclaredOf outer m d ∨ d ∈ declaredIn (outer ++ [m.name]) m.nested := by
  obtain ⟨body, nested⟩ := m
  simp only [declaredBy, List.mem_cons, List.mem_append, List.mem_map]
  constructor
  · rintro (rfl | (⟨p, hp, rfl⟩ | hd) | ⟨e, he, rfl⟩)
    · exact .inl .message
    · exact .inl (.oneof hp)
    · exact .inr hd
    · exact .inl (.enum he)
  · rintro (hd | hd)
    · cases hd with
      | message => exact .inl rfl
      | oneof hp => exact .inr (.inl (.inl ⟨_, hp, rfl⟩))
      | enum he => exact .inr (.inr ⟨_, he, rfl⟩)
    · exact .inr (.inl (.inr hd))

theorem mem_declaredIn_iff (outer : List String) (ms : List MessageDescriptor) (d : Declared) :
    d ∈ declaredIn outer ms ↔ ∃ m ∈ ms, m.isMapEntry = false ∧ d ∈ declaredBy outer m := by
  induction ms with
  | nil => simp [declaredIn]
  | cons m ms ih =>
      rw [declaredIn]
      split
      · rename_i hentry
        simp [ih, hentry]
      · rename_i hplain
        simp [ih, hplain]

mutual

/-- Whatever is declared below a message belongs to a message for which something is
generated. -/
theorem exists_declaredOf_of_mem (file : FileDescriptor) (d : Declared) : ∀ (outer : List String)
    (m : MessageDescriptor), EmittedAt file outer m → d ∈ declaredBy outer m →
    ∃ outer' n, EmittedAt file outer' n ∧ DeclaredOf outer' n d
  | outer, ⟨m, nested⟩ => by
      intro hm hd
      rcases (mem_declaredBy_iff _ _ _).mp hd with hd | hd
      · exact ⟨outer, ⟨m, nested⟩, hm, hd⟩
      · exact exists_declaredOf_of_mem_nested file d (outer ++ [m.name]) nested
          (fun n hn hplain => hm.nested hn hplain) hd

theorem exists_declaredOf_of_mem_nested (file : FileDescriptor) (d : Declared) :
    ∀ (outer : List String) (ms : List MessageDescriptor),
    (∀ m ∈ ms, m.isMapEntry = false → EmittedAt file outer m) → d ∈ declaredIn outer ms →
    ∃ outer' n, EmittedAt file outer' n ∧ DeclaredOf outer' n d
  | outer, [] => by simp [declaredIn]
  | outer, m :: ms => by
      intro hms hd
      obtain ⟨hm, hrest⟩ := List.forall_mem_cons.mp hms
      rw [declaredIn] at hd
      split at hd
      · exact exists_declaredOf_of_mem_nested file d outer ms hrest hd
      · rename_i hplain
        rcases List.mem_append.mp hd with hd | hd
        · exact exists_declaredOf_of_mem file d outer m (hm (by simpa using hplain)) hd
        · exact exists_declaredOf_of_mem_nested file d outer ms hrest hd

end

theorem EmittedAt.declaredBy_subset {file : FileDescriptor} {outer : List String}
    {m : MessageDescriptor} (h : EmittedAt file outer m) :
    declaredBy outer m ⊆ declaredByFile file := by
  induction h with
  | top hm => exact fun d hd => List.mem_append_left _ (List.mem_flatMap.mpr ⟨_, hm, hd⟩)
  | @nested outer m n _ hn hplain ih =>
      refine fun d hd => ih ((mem_declaredBy_iff _ _ _).mpr (.inr ?_))
      exact (mem_declaredIn_iff _ _ _).mpr ⟨n, hn, hplain, hd⟩

/-- A file declares its enums and what belongs to the messages outside of nested map
entries. -/
theorem mem_declaredByFile_iff (file : FileDescriptor) (d : Declared) :
    d ∈ declaredByFile file ↔
      (∃ outer m, EmittedAt file outer m ∧ DeclaredOf outer m d) ∨
        ∃ e ∈ file.enums, d = .enum [] e := by
  constructor
  · intro hd
    rcases List.mem_append.mp hd with hd | hd
    · obtain ⟨m, hm, hd⟩ := List.mem_flatMap.mp hd
      exact .inl (exists_declaredOf_of_mem file d [] m (.top hm) hd)
    · obtain ⟨e, he, rfl⟩ := List.mem_map.mp hd
      exact .inr ⟨e, he, rfl⟩
  · rintro (⟨outer, m, hm, hd⟩ | ⟨e, he, rfl⟩)
    · exact hm.declaredBy_subset ((mem_declaredBy_iff _ _ _).mpr (.inl hd))
    · exact List.mem_append_right _ (List.mem_map.mpr ⟨e, he, rfl⟩)

end Generator

end Protogen
