import Protogen.Proofs.Wire.RoundTrip

/-!
# The parts of a record

A record is put together of one part for each field. What is read under the number of a field
comes from its own part, since the others lack the number, and from there it comes back as it was.
A record conforms to a type if each of its parts is that of a field of the type.
-/

namespace Protogen

namespace Wire

namespace Record

/-- The message that the records of a field amount to. -/
def merged : List Record → Option Record
  | [] => none
  | rs => some rs.flatten

/-- No entry has the number. -/
def Lacks (r : Record) (n : Nat) : Prop := ∀ e ∈ r, e.number ≠ n

section

variable {r s : Record} {k n : Nat}

/-! ### Reading part by part -/

@[simp] theorem int32s_append : (r ++ s).int32s n = r.int32s n ++ s.int32s n :=
  List.flatMap_append

@[simp] theorem texts_append : (r ++ s).texts n = r.texts n ++ s.texts n := List.filterMap_append

@[simp] theorem messages_append : (r ++ s).messages n = r.messages n ++ s.messages n :=
  List.filterMap_append

/-- The last value wins, and it is found in the second record first. -/
theorem getLast?_filterMap_append {α : Type} (f : Entry → Option α) :
    ((r ++ s).filterMap f).getLast? = (s.filterMap f).getLast?.or (r.filterMap f).getLast? := by
  rw [List.filterMap_append, List.getLast?_append]

@[simp] theorem bool?_append : (r ++ s).bool? n = (s.bool? n).or (r.bool? n) :=
  getLast?_filterMap_append _

@[simp] theorem int64?_append : (r ++ s).int64? n = (s.int64? n).or (r.int64? n) :=
  getLast?_filterMap_append _

@[simp] theorem uint64?_append : (r ++ s).uint64? n = (s.uint64? n).or (r.uint64? n) :=
  getLast?_filterMap_append _

@[simp] theorem doubleBits?_append :
    (r ++ s).doubleBits? n = (s.doubleBits? n).or (r.doubleBits? n) :=
  getLast?_filterMap_append _

@[simp] theorem bytes?_append : (r ++ s).bytes? n = (s.bytes? n).or (r.bytes? n) :=
  getLast?_filterMap_append _

@[simp] theorem int32?_eq_getLast? : r.int32? n = (r.int32s n).getLast? := rfl

@[simp] theorem text?_eq_getLast? : r.text? n = (r.texts n).getLast? := rfl

@[simp] theorem message?_eq_merged : r.message? n = merged (r.messages n) := by
  rw [message?]
  cases r.messages n <;> rfl

@[simp] theorem getLast?_toList {α : Type} (v : Option α) : v.toList.getLast? = v := by
  cases v <;> rfl

@[simp] theorem merged_toList (v : Option Record) : merged v.toList = v := by
  cases v <;> simp [merged]

/-! ### Parts of other fields -/

theorem Lacks.filterMap {α : Type} {f : Entry → Option α} (h : r.Lacks n)
    (hf : ∀ e, e.number ≠ n → f e = none) : r.filterMap f = [] :=
  List.filterMap_eq_nil_iff.mpr fun e he => hf e (h e he)

theorem Lacks.getLast?_filterMap {α : Type} {f : Entry → Option α} (h : r.Lacks n)
    (hf : ∀ e, e.number ≠ n → f e = none) : (r.filterMap f).getLast? = none :=
  List.getLast?_eq_none_iff.mpr (h.filterMap hf)

@[simp] theorem Lacks.int32s (h : r.Lacks n) : r.int32s n = [] := by
  refine List.flatMap_eq_nil_iff.mpr fun e he => ?_
  have hne := h e he
  cases e <;> simp_all [Entry.number]

@[simp] theorem Lacks.texts (h : r.Lacks n) : r.texts n = [] := by
  refine h.filterMap fun e hne => ?_
  cases e <;> simp_all [Entry.number]

@[simp] theorem Lacks.messages (h : r.Lacks n) : r.messages n = [] := by
  refine h.filterMap fun e hne => ?_
  cases e <;> simp_all [Entry.number]

@[simp] theorem Lacks.bool? (h : r.Lacks n) : r.bool? n = none := by
  refine h.getLast?_filterMap fun e hne => ?_
  cases e <;> simp_all [Entry.number]

@[simp] theorem Lacks.int64? (h : r.Lacks n) : r.int64? n = none := by
  refine h.getLast?_filterMap fun e hne => ?_
  cases e <;> simp_all [Entry.number]

@[simp] theorem Lacks.uint64? (h : r.Lacks n) : r.uint64? n = none := by
  refine h.getLast?_filterMap fun e hne => ?_
  cases e <;> simp_all [Entry.number]

@[simp] theorem Lacks.doubleBits? (h : r.Lacks n) : r.doubleBits? n = none := by
  refine h.getLast?_filterMap fun e hne => ?_
  cases e <;> simp_all [Entry.number]

@[simp] theorem Lacks.bytes? (h : r.Lacks n) : r.bytes? n = none := by
  refine h.getLast?_filterMap fun e hne => ?_
  cases e <;> simp_all [Entry.number]

theorem lacks_map {α : Type} {f : α → Entry} (hf : ∀ v, (f v).number = k) (h : k ≠ n)
    (vs : List α) : Lacks (vs.map f) n := by
  intro e he
  obtain ⟨v, -, rfl⟩ := List.mem_map.mp he
  rwa [hf]

@[simp] theorem lacks_ofInt32? (h : k ≠ n) (v : Option Int32) : (ofInt32? k v).Lacks n :=
  lacks_map (f := .int32 k) (fun _ => rfl) h _

@[simp] theorem lacks_ofInt32s (h : k ≠ n) (vs : List Int32) : (ofInt32s k vs).Lacks n :=
  lacks_map (f := .int32 k) (fun _ => rfl) h _

@[simp] theorem lacks_ofInt64? (h : k ≠ n) (v : Option Int64) : (ofInt64? k v).Lacks n :=
  lacks_map (f := .int64 k) (fun _ => rfl) h _

@[simp] theorem lacks_ofUInt64? (h : k ≠ n) (v : Option UInt64) : (ofUInt64? k v).Lacks n :=
  lacks_map (f := .uint64 k) (fun _ => rfl) h _

@[simp] theorem lacks_ofDoubleBits? (h : k ≠ n) (v : Option UInt64) :
    (ofDoubleBits? k v).Lacks n :=
  lacks_map (f := .double k) (fun _ => rfl) h _

@[simp] theorem lacks_ofBool? (h : k ≠ n) (v : Option Bool) : (ofBool? k v).Lacks n :=
  lacks_map (f := .bool k) (fun _ => rfl) h _

@[simp] theorem lacks_ofText? (h : k ≠ n) (v : Option String) : (ofText? k v).Lacks n :=
  lacks_map (f := .text k) (fun _ => rfl) h _

@[simp] theorem lacks_ofTexts (h : k ≠ n) (vs : List String) : (ofTexts k vs).Lacks n :=
  lacks_map (f := .text k) (fun _ => rfl) h _

@[simp] theorem lacks_ofBytes? (h : k ≠ n) (v : Option (List UInt8)) :
    (ofBytes? k v).Lacks n :=
  lacks_map (f := .bytes k) (fun _ => rfl) h _

@[simp] theorem lacks_ofMessage? (h : k ≠ n) (v : Option Record) : (ofMessage? k v).Lacks n :=
  lacks_map (f := .message k) (fun _ => rfl) h _

@[simp] theorem lacks_ofMessages (h : k ≠ n) (vs : List Record) : (ofMessages k vs).Lacks n :=
  lacks_map (f := .message k) (fun _ => rfl) h _

/-- A part of one entry or none. -/
theorem lacks_ite {e : Entry} (h : e.number ≠ n) (absent : Bool) :
    Lacks (if absent then [] else [e]) n := by
  cases absent <;> simp [Lacks, h]

@[simp] theorem lacks_ofPacked (h : k ≠ n) (vs : List Int32) : (ofPacked k vs).Lacks n :=
  lacks_ite (e := .packed k vs) h _

@[simp] theorem lacks_ofPlainText (h : k ≠ n) (v : String) : (ofPlainText k v).Lacks n :=
  lacks_ite (e := .text k v) h _

@[simp] theorem lacks_ofPlainBytes (h : k ≠ n) (v : List UInt8) : (ofPlainBytes k v).Lacks n :=
  lacks_ite (e := .bytes k v) h _

/-! ### The own part -/

theorem filterMap_map_self {α : Type} {f : Entry → Option α} {g : α → Entry}
    (h : ∀ v, f (g v) = some v) (vs : List α) : (vs.map g).filterMap f = vs := by
  have hself : f ∘ g = some := funext h
  rw [List.filterMap_map, hself, List.filterMap_some]

theorem getLast?_filterMap_map_self {α : Type} {f : Entry → Option α} {g : α → Entry}
    (h : ∀ v, f (g v) = some v) (v : Option α) : ((v.toList.map g).filterMap f).getLast? = v := by
  rw [filterMap_map_self h, getLast?_toList]

@[simp] theorem int32s_ofInt32? (v : Option Int32) : (ofInt32? n v).int32s n = v.toList := by
  cases v <;> simp [Record.int32s, ofInt32?]

@[simp] theorem int32s_ofInt32s (vs : List Int32) : (ofInt32s n vs).int32s n = vs := by
  simp [Record.int32s, ofInt32s, List.flatMap_map]

@[simp] theorem int32s_ofPacked (vs : List Int32) : (ofPacked n vs).int32s n = vs := by
  cases vs <;> simp [Record.int32s, ofPacked]

@[simp] theorem bool?_ofBool? (v : Option Bool) : (ofBool? n v).bool? n = v :=
  getLast?_filterMap_map_self (g := .bool n) (fun _ => if_pos rfl) v

@[simp] theorem uint64?_ofUInt64? (v : Option UInt64) : (ofUInt64? n v).uint64? n = v :=
  getLast?_filterMap_map_self (g := .uint64 n) (fun _ => if_pos rfl) v

@[simp] theorem int64?_ofInt64? (v : Option Int64) : (ofInt64? n v).int64? n = v :=
  getLast?_filterMap_map_self (g := .int64 n) (fun _ => if_pos rfl) v

@[simp] theorem doubleBits?_ofDoubleBits? (v : Option UInt64) :
    (ofDoubleBits? n v).doubleBits? n = v :=
  getLast?_filterMap_map_self (g := .double n) (fun _ => if_pos rfl) v

@[simp] theorem bytes?_ofBytes? (v : Option (List UInt8)) : (ofBytes? n v).bytes? n = v :=
  getLast?_filterMap_map_self (g := .bytes n) (fun _ => if_pos rfl) v

@[simp] theorem texts_ofText? (v : Option String) : (ofText? n v).texts n = v.toList :=
  filterMap_map_self (g := .text n) (fun _ => if_pos rfl) _

@[simp] theorem texts_ofTexts (vs : List String) : (ofTexts n vs).texts n = vs :=
  filterMap_map_self (g := .text n) (fun _ => if_pos rfl) vs

/-- An empty text is the one that stands in for a missing one. -/
@[simp] theorem getD_texts_ofPlainText (v : String) :
    ((ofPlainText n v).texts n).getLast?.getD "" = v := by
  by_cases h : v = "" <;> simp [Record.texts, ofPlainText, h]

@[simp] theorem getD_bytes?_ofPlainBytes (v : List UInt8) :
    ((ofPlainBytes n v).bytes? n).getD [] = v := by
  cases v <;> simp [Record.bytes?, ofPlainBytes]

@[simp] theorem messages_ofMessage? (v : Option Record) :
    (ofMessage? n v).messages n = v.toList :=
  filterMap_map_self (g := .message n) (fun _ => if_pos rfl) _

@[simp] theorem messages_ofMessages (vs : List Record) : (ofMessages n vs).messages n = vs :=
  filterMap_map_self (g := .message n) (fun _ => if_pos rfl) vs

end

end Record

/-! ### Conforming parts -/

/-- The type of the field with the number. -/
def MessageType.fieldType? (type : MessageType) (n : Nat) : Option FieldType :=
  (type.field? n).map FieldSchema.type

namespace Conforms

variable {type inner : MessageType} {r s : Record} {n : Nat}

theorem append (h : Conforms type r) (h' : Conforms type s) : Conforms type (r ++ s) := by
  induction h with
  | nil => exact h'
  | plain hfield htakes _ ih => exact .plain hfield htakes (ih h')
  | message hfield hnested hrecord _ _ ih => exact .message hfield hnested hrecord (ih h')

/-- Values that the field takes make up a part. -/
theorem map_plain {α : Type} {t : FieldType} {f : α → Entry} (h : type.fieldType? n = some t)
    (hnumber : ∀ v, (f v).number = n) (vs : List α) (htakes : ∀ v ∈ vs, t.Takes (f v)) :
    Conforms type (vs.map f) := by
  obtain ⟨field, hfield, rfl⟩ := Option.map_eq_some_iff.mp h
  induction vs with
  | nil => exact .nil type
  | cons v vs ih =>
      obtain ⟨hv, hvs⟩ := List.forall_mem_cons.mp htakes
      exact .plain ((congrArg type.field? (hnumber v)).trans hfield) hv (ih hvs)

theorem ofInt32? (h : type.fieldType? n = some .int32) (v : Option Int32) :
    Conforms type (Record.ofInt32? n v) :=
  map_plain h (fun _ => rfl) _ fun v _ => .int32 n v

theorem ofInt32s (h : type.fieldType? n = some .repeatedInt32) (vs : List Int32) :
    Conforms type (Record.ofInt32s n vs) :=
  map_plain h (fun _ => rfl) _ fun v _ => .repeatedInt32 n v

theorem ofPacked (h : type.fieldType? n = some .packedInt32) (vs : List Int32) :
    Conforms type (Record.ofPacked n vs) := by
  rw [Record.ofPacked]
  split
  · exact .nil type
  · rename_i hne
    exact map_plain h (fun _ => rfl) [vs] (by simpa using .packedInt32 n (by simpa using hne))

theorem ofBool? (h : type.fieldType? n = some .bool) (v : Option Bool) :
    Conforms type (Record.ofBool? n v) :=
  map_plain h (fun _ => rfl) _ fun v _ => .bool n v

theorem ofUInt64? (h : type.fieldType? n = some .uint64) (v : Option UInt64) :
    Conforms type (Record.ofUInt64? n v) :=
  map_plain h (fun _ => rfl) _ fun v _ => .uint64 n v

theorem ofInt64? (h : type.fieldType? n = some .int64) (v : Option Int64) :
    Conforms type (Record.ofInt64? n v) :=
  map_plain h (fun _ => rfl) _ fun v _ => .int64 n v

theorem ofDoubleBits? (h : type.fieldType? n = some .double) (v : Option UInt64) :
    Conforms type (Record.ofDoubleBits? n v) :=
  map_plain h (fun _ => rfl) _ fun v _ => .double n v

theorem ofBytes? (h : type.fieldType? n = some .bytes) (v : Option (List UInt8)) :
    Conforms type (Record.ofBytes? n v) :=
  map_plain h (fun _ => rfl) _ fun v _ => .bytes n v

theorem ofText? (h : type.fieldType? n = some .text) (v : Option String) :
    Conforms type (Record.ofText? n v) :=
  map_plain h (fun _ => rfl) _ fun v _ => .text n v

theorem ofTexts (h : type.fieldType? n = some .repeatedText) (vs : List String) :
    Conforms type (Record.ofTexts n vs) :=
  map_plain h (fun _ => rfl) _ fun v _ => .repeatedText n v

theorem ofPlainText (h : type.fieldType? n = some .text) (v : String) :
    Conforms type (Record.ofPlainText n v) := by
  rw [Record.ofPlainText]
  split
  · exact .nil type
  · exact map_plain h (fun _ => rfl) [v] fun v _ => .text n v

theorem ofPlainBytes (h : type.fieldType? n = some .bytes) (v : List UInt8) :
    Conforms type (Record.ofPlainBytes n v) := by
  rw [Record.ofPlainBytes]
  split
  · exact .nil type
  · exact map_plain h (fun _ => rfl) [v] fun v _ => .bytes n v

theorem ofMessages (h : type.fieldType? n = some (.repeatedMessage inner)) (vs : List Record)
    (hvs : ∀ v ∈ vs, Conforms inner v) : Conforms type (Record.ofMessages n vs) := by
  obtain ⟨field, hfield, htype⟩ := Option.map_eq_some_iff.mp h
  have hnested : field.type.nested? = some inner := by rw [htype]; rfl
  induction vs with
  | nil => exact .nil type
  | cons v vs ih =>
      obtain ⟨hv, hvs⟩ := List.forall_mem_cons.mp hvs
      exact .message hfield hnested hv (ih hvs)

theorem ofMessage? (h : type.fieldType? n = some (.message inner)) (v : Option Record)
    (hv : ∀ r, v = some r → Conforms inner r) : Conforms type (Record.ofMessage? n v) := by
  obtain ⟨field, hfield, htype⟩ := Option.map_eq_some_iff.mp h
  have hnested : field.type.nested? = some inner := by rw [htype]; rfl
  cases v with
  | none => exact .nil type
  | some r => exact .message hfield hnested (hv r rfl) (.nil type)

theorem ofMessages_map {α : Type} (h : type.fieldType? n = some (.repeatedMessage inner))
    (xs : List α) {f : α → Record} (hf : ∀ x, Conforms inner (f x)) :
    Conforms type (Record.ofMessages n (xs.map f)) :=
  ofMessages h _ (List.forall_mem_map.mpr fun x _ => hf x)

theorem ofMessage?_map {α : Type} (h : type.fieldType? n = some (.message inner))
    (x : Option α) {f : α → Record} (hf : ∀ x, Conforms inner (f x)) :
    Conforms type (Record.ofMessage? n (x.map f)) := by
  refine ofMessage? h _ fun r hr => ?_
  obtain ⟨y, -, rfl⟩ := Option.map_eq_some_iff.mp hr
  exact hf y

end Conforms

/-! ### Depth -/

/-- What is inside a message is less deep. -/
theorem depth_lt_of_mem_messages {r inner : Record} {n : Nat} (h : inner ∈ r.messages n) :
    inner.depth < r.depth := by
  induction r with
  | nil => simp [Record.messages] at h
  | cons e es ih =>
      have hdepth : Record.depth (e :: es) = max e.depth (Record.depth es) := rfl
      rw [hdepth]
      rw [← List.singleton_append, Record.messages_append, List.mem_append] at h
      rcases h with h | h
      · have he : e = .message n inner := by
          cases e <;> simp_all [Record.messages]
        have hinner : (Entry.message n inner).depth = 1 + inner.depth := rfl
        rw [he, hinner]
        omega
      · have := ih h
        omega

theorem FieldType.Takes.depth_eq {type : FieldType} {e : Entry} (h : type.Takes e) :
    e.depth = 0 := by
  cases h <;> rfl

/-- The types of the messages that a message holds. -/
def MessageType.innerTypes (type : MessageType) : List MessageType :=
  type.fields.filterMap fun field => field.type.nested?

/-- A record is as deep as the messages allow that its type has fields for. -/
theorem Conforms.depth_le {type : MessageType} {r : Record} {d : Nat} (h : Conforms type r)
    (hinner : ∀ inner ∈ type.innerTypes, ∀ record, Conforms inner record →
      1 + record.depth ≤ d) : r.depth ≤ d := by
  induction h with
  | nil type => exact Nat.zero_le d
  | @plain type field e es hfield htakes hes ih =>
      have hdepth : Record.depth (e :: es) = max e.depth (Record.depth es) := rfl
      rw [hdepth, htakes.depth_eq, Nat.zero_max]
      exact ih hinner
  | @message type inner field n record es hfield hnested hrecord hes ihrecord ihes =>
      have hmem : inner ∈ type.innerTypes :=
        List.mem_filterMap.mpr ⟨field, List.mem_of_find?_eq_some hfield, hnested⟩
      exact Nat.max_le.mpr ⟨hinner inner hmem record hrecord, ihes hinner⟩

end Wire

end Protogen
