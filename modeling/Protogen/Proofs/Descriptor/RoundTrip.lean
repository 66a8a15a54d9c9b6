import Protogen.Descriptor.Record
import Protogen.Proofs.Wire.Parts

/-!
# Descriptors that come back

Every descriptor is what its record is read as, and its record conforms to its type. A message is
read back with all that is nested in it, since its record says how deep it is.
-/

namespace Protogen

namespace Descriptor

open Wire

/-! ### Options -/

@[simp] theorem OptionNamePart.ofRecord_toRecord (p : OptionNamePart) :
    ofRecord p.toRecord = p := by
  unfold toRecord ofRecord
  simp

theorem OptionNamePart.conforms (p : OptionNamePart) : Conforms .optionNamePart p.toRecord :=
  .append (.ofText? rfl _) (.ofBool? rfl _)

@[simp] theorem UninterpretedOption.ofRecord_toRecord (o : UninterpretedOption) :
    ofRecord o.toRecord = o := by
  unfold toRecord ofRecord
  simp [Function.comp_def]

theorem UninterpretedOption.conforms (o : UninterpretedOption) :
    Conforms .uninterpretedOption o.toRecord := by
  unfold toRecord
  repeat' apply Conforms.append
  · exact .ofMessages_map rfl _ OptionNamePart.conforms
  · exact .ofText? rfl _
  · exact .ofUInt64? rfl _
  · exact .ofInt64? rfl _
  · exact .ofDoubleBits? rfl _
  · exact .ofBytes? rfl _
  · exact .ofText? rfl _

namespace PlainOptions

@[simp] theorem ofRecord_toRecord (os : PlainOptions) : ofRecord (toRecord os) = os := by
  unfold toRecord ofRecord
  simp [Function.comp_def]

/-- The settings of their own that options have stand before the plain ones. -/
@[simp] theorem ofRecord_append {r : Record} (h : r.Lacks 999) (s : Record) :
    ofRecord (r ++ s) = ofRecord s := by
  unfold ofRecord
  rw [Record.messages_append, h.messages, List.nil_append]

@[simp] theorem lacks_toRecord {n : Nat} (h : 999 ≠ n) (os : PlainOptions) :
    Record.Lacks (toRecord os) n :=
  Record.lacks_ofMessages h _

theorem conforms {type : MessageType}
    (h : type.fieldType? 999 = some (.repeatedMessage .uninterpretedOption))
    (os : PlainOptions) : Conforms type (toRecord os) :=
  .ofMessages_map h os UninterpretedOption.conforms

end PlainOptions

@[simp] theorem DeprecationOptions.ofRecord_toRecord {flag : Nat} (h : 999 ≠ flag)
    (o : DeprecationOptions) : ofRecord flag (o.toRecord flag) = o := by
  unfold toRecord ofRecord
  simp [h, h.symm]

theorem DeprecationOptions.conforms {type : MessageType} {flag : Nat}
    (hflag : type.fieldType? flag = some .bool)
    (h : type.fieldType? 999 = some (.repeatedMessage .uninterpretedOption))
    (o : DeprecationOptions) : Conforms type (o.toRecord flag) :=
  .append (.ofBool? hflag _) (PlainOptions.conforms h _)

@[simp] theorem FieldOptions.ofRecord_toRecord (o : FieldOptions) : ofRecord o.toRecord = o := by
  unfold toRecord ofRecord
  simp

theorem FieldOptions.conforms (o : FieldOptions) : Conforms .fieldOptions o.toRecord := by
  unfold toRecord
  repeat' apply Conforms.append
  all_goals
    first | exact .ofInt32? rfl _ | exact .ofBool? rfl _ | exact PlainOptions.conforms rfl _

@[simp] theorem EnumOptions.ofRecord_toRecord (o : EnumOptions) : ofRecord o.toRecord = o := by
  unfold toRecord ofRecord
  simp

theorem EnumOptions.conforms (o : EnumOptions) : Conforms .enumOptions o.toRecord := by
  unfold toRecord
  repeat' apply Conforms.append
  all_goals first | exact .ofBool? rfl _ | exact PlainOptions.conforms rfl _

@[simp] theorem MessageOptions.ofRecord_toRecord (o : MessageOptions) :
    ofRecord o.toRecord = o := by
  unfold toRecord ofRecord
  simp

theorem MessageOptions.conforms (o : MessageOptions) : Conforms .messageOptions o.toRecord := by
  unfold toRecord
  repeat' apply Conforms.append
  all_goals first | exact .ofBool? rfl _ | exact PlainOptions.conforms rfl _

@[simp] theorem MethodOptions.ofRecord_toRecord (o : MethodOptions) : ofRecord o.toRecord = o := by
  unfold toRecord ofRecord
  simp

theorem MethodOptions.conforms (o : MethodOptions) : Conforms .methodOptions o.toRecord := by
  unfold toRecord
  exact .append (.append (.ofBool? rfl _) (.ofInt32? rfl _)) (PlainOptions.conforms rfl _)

@[simp] theorem FileOptions.ofRecord_toRecord (o : FileOptions) : ofRecord o.toRecord = o := by
  unfold toRecord ofRecord
  simp

theorem FileOptions.conforms (o : FileOptions) : Conforms .fileOptions o.toRecord := by
  unfold toRecord
  repeat' apply Conforms.append
  all_goals
    first
    | exact .ofText? rfl _
    | exact .ofBool? rfl _
    | exact .ofInt32? rfl _
    | exact PlainOptions.conforms rfl _

/-! ### Fields, oneofs and enums -/

@[simp] theorem FieldDescriptor.ofRecord_toRecord (f : FieldDescriptor) :
    ofRecord f.toRecord = f := by
  unfold toRecord ofRecord
  simp [Function.comp_def]

theorem FieldDescriptor.conforms (f : FieldDescriptor) :
    Conforms .fieldDescriptor f.toRecord := by
  unfold toRecord
  repeat' apply Conforms.append
  all_goals
    first
    | exact .ofText? rfl _
    | exact .ofInt32? rfl _
    | exact .ofBool? rfl _
    | exact .ofMessage?_map rfl _ FieldOptions.conforms

@[simp] theorem OneofDescriptor.ofRecord_toRecord (o : OneofDescriptor) :
    ofRecord o.toRecord = o := by
  unfold toRecord ofRecord
  simp [Function.comp_def]

theorem OneofDescriptor.conforms (o : OneofDescriptor) :
    Conforms .oneofDescriptor o.toRecord :=
  .append (.ofText? rfl _) (.ofMessage?_map rfl _ (PlainOptions.conforms rfl))

@[simp] theorem EnumValueDescriptor.ofRecord_toRecord (v : EnumValueDescriptor) :
    ofRecord v.toRecord = v := by
  unfold toRecord ofRecord
  simp [Function.comp_def]

theorem EnumValueDescriptor.conforms (v : EnumValueDescriptor) :
    Conforms .enumValueDescriptor v.toRecord :=
  .append (.append (.ofText? rfl _) (.ofInt32? rfl _))
    (.ofMessage?_map rfl _ (DeprecationOptions.conforms rfl rfl))

@[simp] theorem NumberRange.ofRecord_toRecord (r : NumberRange) : ofRecord r.toRecord = r := by
  unfold toRecord ofRecord
  simp

theorem NumberRange.conforms {type : MessageType} (hstart : type.fieldType? 1 = some .int32)
    (hstop : type.fieldType? 2 = some .int32) (r : NumberRange) : Conforms type r.toRecord :=
  .append (.ofInt32? hstart _) (.ofInt32? hstop _)

@[simp] theorem ExtensionRange.ofRecord_toRecord (r : ExtensionRange) :
    ofRecord r.toRecord = r := by
  unfold toRecord ofRecord NumberRange.toRecord NumberRange.ofRecord
  simp [Function.comp_def]

theorem ExtensionRange.conforms (r : ExtensionRange) : Conforms .extensionRange r.toRecord :=
  .append (NumberRange.conforms rfl rfl r.range)
    (.ofMessage?_map rfl _ (PlainOptions.conforms rfl))

@[simp] theorem EnumDescriptor.ofRecord_toRecord (e : EnumDescriptor) :
    ofRecord e.toRecord = e := by
  unfold toRecord ofRecord
  simp [Function.comp_def]

theorem EnumDescriptor.conforms (e : EnumDescriptor) : Conforms .enumDescriptor e.toRecord := by
  unfold toRecord
  repeat' apply Conforms.append
  · exact .ofText? rfl _
  · exact .ofMessages_map rfl _ EnumValueDescriptor.conforms
  · exact .ofMessage?_map rfl _ EnumOptions.conforms
  · exact .ofMessages_map rfl _ (NumberRange.conforms rfl rfl)
  · exact .ofTexts rfl _

/-! ### Services -/

@[simp] theorem MethodDescriptor.ofRecord_toRecord (m : MethodDescriptor) :
    ofRecord m.toRecord = m := by
  unfold toRecord ofRecord
  simp [Function.comp_def]

theorem MethodDescriptor.conforms (m : MethodDescriptor) :
    Conforms .methodDescriptor m.toRecord := by
  unfold toRecord
  repeat' apply Conforms.append
  all_goals
    first
    | exact .ofText? rfl _
    | exact .ofBool? rfl _
    | exact .ofMessage?_map rfl _ MethodOptions.conforms

@[simp] theorem ServiceDescriptor.ofRecord_toRecord (s : ServiceDescriptor) :
    ofRecord s.toRecord = s := by
  unfold toRecord ofRecord
  simp [Function.comp_def]

theorem ServiceDescriptor.conforms (s : ServiceDescriptor) :
    Conforms .serviceDescriptor s.toRecord :=
  .append (.append (.ofText? rfl _) (.ofMessages_map rfl _ MethodDescriptor.conforms))
    (.ofMessage?_map rfl _ (DeprecationOptions.conforms rfl rfl))

/-! ### Messages -/

@[simp] theorem MessageBody.ofRecord_toRecord (m : MessageBody) (nested : List Record) :
    ofRecord (m.toRecord nested) = m := by
  unfold toRecord ofRecord
  simp [Function.comp_def]

@[simp] theorem MessageBody.messages_toRecord (m : MessageBody) (nested : List Record) :
    Record.messages (m.toRecord nested) 3 = nested := by
  unfold toRecord
  simp

theorem MessageBody.conforms (m : MessageBody) (nested : List Record)
    (hnested : ∀ r ∈ nested, Conforms .messageDescriptor r) :
    Conforms .messageDescriptor (m.toRecord nested) := by
  unfold toRecord
  repeat' apply Conforms.append
  · exact .ofText? rfl _
  · exact .ofMessages_map rfl _ FieldDescriptor.conforms
  · exact .ofMessages rfl nested hnested
  · exact .ofMessages_map rfl _ EnumDescriptor.conforms
  · exact .ofMessages_map rfl _ ExtensionRange.conforms
  · exact .ofMessages_map rfl _ FieldDescriptor.conforms
  · exact .ofMessage?_map rfl _ MessageOptions.conforms
  · exact .ofMessages_map rfl _ OneofDescriptor.conforms
  · exact .ofMessages_map rfl _ (NumberRange.conforms rfl rfl)
  · exact .ofTexts rfl _

theorem MessageDescriptor.toRecords_eq_map (ms : List MessageDescriptor) :
    toRecords ms = ms.map toRecord := by
  induction ms with
  | nil => rfl
  | cons m ms ih => rw [toRecords, ih, List.map_cons]

theorem MessageDescriptor.messages_toRecord (m : MessageDescriptor) :
    Record.messages m.toRecord 3 = m.nested.map toRecord := by
  obtain ⟨body, nested⟩ := m
  rw [toRecord, MessageBody.messages_toRecord, toRecords_eq_map]

theorem MessageDescriptor.depth_lt_of_mem_nested {m inner : MessageDescriptor}
    (h : inner ∈ m.nested) : Record.depth inner.toRecord < Record.depth m.toRecord := by
  have hmem : inner.toRecord ∈ Record.messages m.toRecord 3 := by
    rw [messages_toRecord]
    exact List.mem_map_of_mem h
  exact depth_lt_of_mem_messages hmem

theorem MessageDescriptor.body_toRecord (m : MessageDescriptor) :
    MessageBody.ofRecord m.toRecord = m.body := by
  obtain ⟨body, nested⟩ := m
  rw [toRecord, MessageBody.ofRecord_toRecord]

/-- A message comes back if it is read to its depth at least. -/
theorem MessageDescriptor.ofRecordWithin_toRecord (levels : Nat) (m : MessageDescriptor)
    (h : Record.depth m.toRecord ≤ levels) : ofRecordWithin levels m.toRecord = m := by
  induction levels generalizing m with
  | zero =>
      have hnested : m.nested = [] := by
        refine List.eq_nil_iff_forall_not_mem.mpr fun inner hinner => ?_
        exact Nat.not_lt_zero _ (Nat.lt_of_lt_of_le (depth_lt_of_mem_nested hinner) h)
      rw [ofRecordWithin, body_toRecord, ← hnested]
      cases m
      rfl
  | succ levels ih =>
      have hinner : ∀ inner ∈ m.nested, (ofRecordWithin levels ∘ toRecord) inner = id inner := by
        intro inner hmem
        have hlt := depth_lt_of_mem_nested hmem
        exact ih inner (by omega)
      rw [ofRecordWithin, body_toRecord, messages_toRecord, List.map_map,
        List.map_congr_left hinner, List.map_id]
      cases m
      rfl

@[simp] theorem MessageDescriptor.ofRecord_toRecord (m : MessageDescriptor) :
    ofRecord m.toRecord = m :=
  ofRecordWithin_toRecord _ m le_rfl

mutual

theorem MessageDescriptor.conforms : ∀ m : MessageDescriptor,
    Conforms .messageDescriptor m.toRecord
  | ⟨body, nested⟩ => MessageBody.conforms body _ (MessageDescriptor.conforms_nested nested)

theorem MessageDescriptor.conforms_nested : ∀ ms : List MessageDescriptor,
    ∀ r ∈ MessageDescriptor.toRecords ms, Conforms .messageDescriptor r
  | [] => fun _ hr => nomatch hr
  | m :: ms =>
    List.forall_mem_cons.mpr ⟨MessageDescriptor.conforms m, MessageDescriptor.conforms_nested ms⟩

end

/-! ### Files -/

@[simp] theorem Location.ofRecord_toRecord (l : Location) : ofRecord l.toRecord = l := by
  unfold toRecord ofRecord
  simp

theorem Location.conforms (l : Location) : Conforms .location l.toRecord := by
  unfold toRecord
  repeat' apply Conforms.append
  all_goals first | exact .ofPacked rfl _ | exact .ofText? rfl _ | exact .ofTexts rfl _

@[simp] theorem sourceInfoOfRecord_sourceInfoRecord (locations : List Location) :
    sourceInfoOfRecord (sourceInfoRecord locations) = locations := by
  unfold sourceInfoOfRecord sourceInfoRecord
  simp [Function.comp_def]

theorem conforms_sourceInfoRecord (locations : List Location) :
    Conforms .sourceCodeInfo (sourceInfoRecord locations) :=
  .ofMessages_map rfl _ Location.conforms

@[simp] theorem FileDescriptor.ofRecord_toRecord (f : FileDescriptor) :
    ofRecord f.toRecord = f := by
  unfold toRecord ofRecord
  simp [MessageDescriptor.toRecords_eq_map, Function.comp_def]

theorem FileDescriptor.conforms (f : FileDescriptor) : Conforms .fileDescriptor f.toRecord := by
  unfold toRecord
  repeat' apply Conforms.append
  · exact .ofText? rfl _
  · exact .ofText? rfl _
  · exact .ofTexts rfl _
  · exact .ofMessages rfl _ (MessageDescriptor.conforms_nested f.messages)
  · exact .ofMessages_map rfl _ EnumDescriptor.conforms
  · exact .ofMessages_map rfl _ ServiceDescriptor.conforms
  · exact .ofMessages_map rfl _ FieldDescriptor.conforms
  · exact .ofMessage?_map rfl _ FileOptions.conforms
  · exact .ofMessage?_map rfl _ conforms_sourceInfoRecord
  · exact .ofInt32s rfl _
  · exact .ofInt32s rfl _
  · exact .ofText? rfl _

end Descriptor

end Protogen
