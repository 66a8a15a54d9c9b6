import Protogen.Proofs.Wire.Values

/-!
# Reading records that were written

A record conforms to a type if every entry has the number of a field and a value that the field
takes. Such a record is read back from its bytes entry by entry, as long as its messages are not
nested too deep.
-/

namespace Protogen

namespace Wire

def Entry.number : Entry → Nat
  | .int32 n _ | .int64 n _ | .uint64 n _ | .double n _ | .bool n _ | .text n _ | .bytes n _
  | .packed n _ | .message n _ => n

/-- The values that a field of the type takes, messages apart. Packed numbers that are none are
not written. -/
inductive FieldType.Takes : FieldType → Entry → Prop
  | int32 (n : Nat) (v : Int32) : Takes .int32 (.int32 n v)
  | repeatedInt32 (n : Nat) (v : Int32) : Takes .repeatedInt32 (.int32 n v)
  | packedInt32 (n : Nat) {vs : List Int32} : vs ≠ [] → Takes .packedInt32 (.packed n vs)
  | int64 (n : Nat) (v : Int64) : Takes .int64 (.int64 n v)
  | uint64 (n : Nat) (v : UInt64) : Takes .uint64 (.uint64 n v)
  | double (n : Nat) (bits : UInt64) : Takes .double (.double n bits)
  | bool (n : Nat) (v : Bool) : Takes .bool (.bool n v)
  | text (n : Nat) (v : String) : Takes .text (.text n v)
  | repeatedText (n : Nat) (v : String) : Takes .repeatedText (.text n v)
  | bytes (n : Nat) (v : List UInt8) : Takes .bytes (.bytes n v)

/-- The entries are those of a message of the type. -/
inductive Conforms : MessageType → Record → Prop
  | nil (type : MessageType) : Conforms type []
  | plain {type : MessageType} {field : FieldSchema} {e : Entry} {es : Record} :
      type.field? e.number = some field → field.type.Takes e → Conforms type es →
        Conforms type (e :: es)
  | message {type inner : MessageType} {field : FieldSchema} {n : Nat} {record es : Record} :
      type.field? n = some field → field.type.nested? = some inner → Conforms inner record →
        Conforms type es → Conforms type (.message n record :: es)

theorem FieldType.Takes.nested? {type : FieldType} {e : Entry} (h : type.Takes e) :
    type.nested? = none := by
  cases h <;> rfl

/-- The numbers of all fields are such as a key can hold. -/
theorem bounds_of_field? {type : MessageType} {n : Nat} {field : FieldSchema}
    (h : type.field? n = some field) : field.number = n ∧ 0 < n ∧ n < 2 ^ 29 := by
  have hbounds : ∀ f ∈ type.fields, 0 < f.number ∧ f.number < 2 ^ 29 := by
    cases type <;> decide
  have hnumber : field.number = n := by simpa using List.find?_some h
  exact ⟨hnumber, hnumber ▸ hbounds field (List.mem_of_find?_eq_some h)⟩

/-! ### One entry -/

theorem writeDelimited_eq (n : Nat) (bs : List UInt8) :
    writeDelimited n bs = writeKey n .lengthDelimited ++ (writeVarint bs.length ++ bs) := by
  rw [writeDelimited, List.append_assoc]

theorem length_lt_of_writeDelimited {n bound : Nat} {bs : List UInt8}
    (h : (writeDelimited n bs).length < bound) : bs.length < bound := by
  rw [writeDelimited, List.length_append] at h
  omega

/-- A value is written behind its key, and read from there by its field. -/
theorem exists_readPlain {field : FieldSchema} {e : Entry} (htakes : field.type.Takes e)
    (hnumber : field.number = e.number) (hlength : e.encode.length < 2 ^ 64) (rest : List UInt8) :
    ∃ wire value, e.encode = writeKey e.number wire ++ value ∧
      readPlain field wire (value ++ rest) = .ok ([e], rest) := by
  obtain ⟨number, name, type⟩ := field
  obtain rfl : number = e.number := hnumber
  cases htakes with
  | int32 n v | repeatedInt32 n v =>
      refine ⟨.varint, writeInt32 v, by rw [Entry.encode]; rfl, ?_⟩
      refine (Outcome.then_eq_ok_iff _ _ _).mpr ⟨rfl, ?_⟩
      exact (Outcome.bind_eq_ok_iff _ _ _).mpr ⟨_, readInt32_writeInt32 v rest, rfl⟩
  | @packedInt32 n vs hne =>
      rw [Entry.encode] at hlength ⊢
      refine ⟨.lengthDelimited, _, writeDelimited_eq n _, ?_⟩
      refine (Outcome.bind_eq_ok_iff _ _ _).mpr
        ⟨_, readPacked_writeVarint vs (length_lt_of_writeDelimited hlength) rest, ?_⟩
      simp only [Record.ofPacked, List.isEmpty_iff, if_neg hne]
      rfl
  | int64 n v =>
      refine ⟨.varint, writeVarint v.toUInt64.toNat, by rw [Entry.encode]; rfl, ?_⟩
      refine (Outcome.then_eq_ok_iff _ _ _).mpr ⟨rfl, ?_⟩
      refine (Outcome.bind_eq_ok_iff _ _ _).mpr
        ⟨_, readVarint_writeVarint v.toUInt64.toNat_lt rest, ?_⟩
      simp only [UInt64.ofNat_toNat, Int64.toInt64_toUInt64]
      rfl
  | uint64 n v =>
      refine ⟨.varint, writeVarint v.toNat, by rw [Entry.encode]; rfl, ?_⟩
      refine (Outcome.then_eq_ok_iff _ _ _).mpr ⟨rfl, ?_⟩
      refine (Outcome.bind_eq_ok_iff _ _ _).mpr ⟨_, readVarint_writeVarint v.toNat_lt rest, ?_⟩
      simp only [UInt64.ofNat_toNat]
      rfl
  | double n bits =>
      refine ⟨.sixtyFourBit, writeFixed 8 bits.toNat, by rw [Entry.encode]; rfl, ?_⟩
      refine (Outcome.then_eq_ok_iff _ _ _).mpr ⟨rfl, ?_⟩
      refine (Outcome.bind_eq_ok_iff _ _ _).mpr ⟨_, readFixed_writeFixed bits.toNat_lt rest, ?_⟩
      simp only [UInt64.ofNat_toNat]
      rfl
  | bool n v =>
      have hbit : v.toNat < 2 ^ 64 := by cases v <;> decide
      refine ⟨.varint, writeVarint v.toNat, by rw [Entry.encode]; rfl, ?_⟩
      refine (Outcome.then_eq_ok_iff _ _ _).mpr ⟨rfl, ?_⟩
      refine (Outcome.bind_eq_ok_iff _ _ _).mpr ⟨_, readVarint_writeVarint hbit rest, ?_⟩
      cases v <;> rfl
  | text n v | repeatedText n v =>
      rw [Entry.encode] at hlength ⊢
      refine ⟨.lengthDelimited, _, writeDelimited_eq n _, ?_⟩
      refine (Outcome.then_eq_ok_iff _ _ _).mpr ⟨rfl, ?_⟩
      refine (Outcome.bind_eq_ok_iff _ _ _).mpr
        ⟨_, readDelimited_writeVarint (length_lt_of_writeDelimited hlength) rest, ?_⟩
      simp only [Text.ofUtf8?_utf8Bytes]
      rfl
  | bytes n v =>
      rw [Entry.encode] at hlength ⊢
      refine ⟨.lengthDelimited, _, writeDelimited_eq n _, ?_⟩
      refine (Outcome.then_eq_ok_iff _ _ _).mpr ⟨rfl, ?_⟩
      exact (Outcome.bind_eq_ok_iff _ _ _).mpr
        ⟨_, readDelimited_writeVarint (length_lt_of_writeDelimited hlength) rest, rfl⟩

/-! ### All entries -/

/-- A plain entry is read, and then the others are. -/
theorem readEntries_plain {fuel limit stop number : Nat} {type : MessageType} {field : FieldSchema}
    {wire : WireType} {bs value after rest : List UInt8} {entries es : Record}
    (hmore : stop < bs.length) (hkey : readKey bs = .ok (number, wire, value))
    (hfield : type.field? number = some field) (hplain : field.type.nested? = none)
    (hvalue : readPlain field wire value = .ok (entries, after))
    (hes : readEntries fuel type limit stop after = .ok (es, rest)) :
    readEntries (fuel + 1) type limit stop bs = .ok (entries ++ es, rest) := by
  rw [readEntries, if_neg (by omega)]
  refine (Outcome.bind_eq_ok_iff _ _ _).mpr ⟨_, hkey, ?_⟩
  simp only [hfield, hplain]
  refine (Outcome.bind_eq_ok_iff _ _ _).mpr ⟨_, (Outcome.mapError_eq_ok_iff _ _ _).mpr hvalue, ?_⟩
  exact (Outcome.bind_eq_ok_iff _ _ _).mpr ⟨_, hes, rfl⟩

/-- A message is read up to its announced end, and then the others are. -/
theorem readEntries_message {fuel limit stop number length : Nat} {type inner : MessageType}
    {field : FieldSchema} {bs value body after rest : List UInt8} {record es : Record}
    (hmore : stop < bs.length) (hkey : readKey bs = .ok (number, .lengthDelimited, value))
    (hfield : type.field? number = some field) (hnested : field.type.nested? = some inner)
    (hlength : readLength value = .ok (length, body))
    (hrecord : readEntries fuel inner limit (body.length - length) body = .ok (record, after))
    (hafter : after.length = body.length - length)
    (hes : readEntries fuel type (limit + 1) stop after = .ok (es, rest)) :
    readEntries (fuel + 1) type (limit + 1) stop bs =
      .ok (Entry.message number record :: es, rest) := by
  rw [readEntries, if_neg (by omega)]
  refine (Outcome.bind_eq_ok_iff _ _ _).mpr ⟨_, hkey, ?_⟩
  simp only [hfield, hnested]
  refine (Outcome.bind_eq_ok_iff _ _ _).mpr ⟨([Entry.message number record], after), ?_, ?_⟩
  · refine (Outcome.mapError_eq_ok_iff _ _ _).mpr ?_
    refine (Outcome.then_eq_ok_iff _ _ _).mpr ⟨rfl, ?_⟩
    rw [if_neg (by omega)]
    refine (Outcome.bind_eq_ok_iff _ _ _).mpr ⟨_, hlength, ?_⟩
    refine (Outcome.bind_eq_ok_iff _ _ _).mpr ⟨_, hrecord, ?_⟩
    exact (Outcome.then_eq_ok_iff _ _ _).mpr ⟨if_pos hafter, rfl⟩
  · exact (Outcome.bind_eq_ok_iff _ _ _).mpr ⟨_, hes, rfl⟩

/-- A conforming record is read back from its bytes, whatever comes behind them. Every entry takes
a byte at least, so there is fuel enough if there is more of it than there are bytes. -/
theorem readEntries_encodeEntries {type : MessageType} {record : Record} (h : Conforms type record)
    (fuel limit : Nat) (rest : List UInt8) (hdepth : record.depth ≤ limit)
    (hfuel : (encodeEntries record).length < fuel)
    (hlength : (encodeEntries record).length < 2 ^ 64) :
    readEntries fuel type limit rest.length (encodeEntries record ++ rest) =
      .ok (record, rest) := by
  induction h generalizing fuel limit rest with
  | nil type =>
      obtain _ | fuel := fuel
      · simp at hfuel
      · rw [encodeEntries, List.nil_append, readEntries, if_pos le_rfl]
  | @plain type field e es hfield htakes hes ih =>
      obtain ⟨hnumber, hpos, hbits⟩ := bounds_of_field? hfield
      rw [encodeEntries, List.length_append] at hfuel hlength
      obtain ⟨wire, value, hencode, hread⟩ :=
        exists_readPlain htakes hnumber (by omega) (encodeEntries es ++ rest)
      have hbytes : encodeEntries (e :: es) ++ rest =
          writeKey e.number wire ++ (value ++ (encodeEntries es ++ rest)) := by
        rw [encodeEntries, hencode, List.append_assoc, List.append_assoc]
      have hkey : 0 < (writeKey e.number wire).length := length_writeVarint_pos _
      rw [hencode, List.length_append] at hfuel
      obtain _ | fuel := fuel
      · omega
      rw [hbytes]
      exact readEntries_plain (by simp only [List.length_append]; omega)
        (readKey_writeKey hpos hbits wire _) hfield htakes.nested? hread
        (ih fuel limit rest (le_trans (le_max_right _ _) hdepth) (by omega) (by omega))
  | @message type inner field n record es hfield hnested hrecord hes ihrecord ihes =>
      obtain ⟨-, hpos, hbits⟩ := bounds_of_field? hfield
      have hbytes : encodeEntries (.message n record :: es) ++ rest =
          writeKey n .lengthDelimited ++ (writeVarint (encodeEntries record).length ++
            encodeEntries record ++ (encodeEntries es ++ rest)) := by
        rw [encodeEntries, Entry.encode, writeDelimited]
        simp only [List.append_assoc]
      have hkey : 0 < (writeKey n .lengthDelimited).length := length_writeVarint_pos _
      rw [encodeEntries, Entry.encode, writeDelimited] at hfuel hlength
      simp only [List.length_append] at hfuel hlength
      obtain ⟨hinner, houter⟩ : 1 + entriesDepth record ≤ limit ∧ entriesDepth es ≤ limit :=
        Nat.max_le.mp hdepth
      obtain _ | fuel := fuel
      · omega
      obtain _ | limit := limit
      · omega
      have hstop : (encodeEntries record ++ (encodeEntries es ++ rest)).length -
          (encodeEntries record).length = (encodeEntries es ++ rest).length := by
        simp
      have hread := ihrecord fuel limit (encodeEntries es ++ rest)
        (show entriesDepth record ≤ limit by omega) (by omega) (by omega)
      rw [← hstop] at hread
      rw [hbytes]
      exact readEntries_message (by simp only [List.length_append]; omega)
        (readKey_writeKey hpos hbits _ _) hfield hnested
        (readLength_writeVarint (by omega) _) hread hstop.symm
        (ihes fuel (limit + 1) rest houter (by omega) (by omega))

/-- A conforming record is what its bytes are decoded to. -/
theorem decode_encode {type : MessageType} {record : Record} (h : Conforms type record)
    (hdepth : record.depth ≤ nestingLimit) (hlength : record.encode.length < 2 ^ 64) :
    decode type record.encode = .ok record := by
  have hread := readEntries_encodeEntries h (record.encode.length + 1) nestingLimit [] hdepth
    (Nat.lt_succ_self _) hlength
  rw [List.append_nil] at hread
  have hdecode : decode type record.encode =
      (.ok (record, []) : Except DecodeError (Record × List UInt8)).map Prod.fst :=
    congrArg (Except.map Prod.fst) hread
  rw [hdecode]
  rfl

end Wire

end Protogen
