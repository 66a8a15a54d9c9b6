import Protogen.Proofs.Json.Tokens

/-!
# The grammar of JSON

Bytes are the text of a value just if the reader reads it from them, so the reader may be left aside
where it matters which bytes say what. No bytes are the text of two values.
-/

namespace Protogen

namespace Json

mutual

/-- The bytes are the text of the value. -/
inductive IsValue : List UInt8 → JsonValue → Prop
  | null : IsValue [0x6E, 0x75, 0x6C, 0x6C] .null
  | yes : IsValue [0x74, 0x72, 0x75, 0x65] (.bool true)
  | no : IsValue [0x66, 0x61, 0x6C, 0x73, 0x65] (.bool false)
  | number {bs : List UInt8} : IsNumber bs → IsValue bs .number
  | text {bs : List UInt8} {fragments : List Fragment} :
      Spells bs fragments → IsValue (0x22 :: (bs ++ [0x22])) (.text (ofFragments? fragments))
  | emptyArray {blanks : List UInt8} :
      Blanks blanks → IsValue (0x5B :: (blanks ++ [0x5D])) (.array [])
  | array {bs : List UInt8} {items : List JsonValue} :
      AreItems bs items → IsValue (0x5B :: (bs ++ [0x5D])) (.array items)
  | emptyObject {blanks : List UInt8} :
      Blanks blanks → IsValue (0x7B :: (blanks ++ [0x7D])) (.object [])
  | object {bs : List UInt8} {members : List (Option String × JsonValue)} :
      AreMembers bs members → IsValue (0x7B :: (bs ++ [0x7D])) (.object members)

/-- The bytes are the text of the value with blanks around it. -/
inductive IsElement : List UInt8 → JsonValue → Prop
  | value {before bs behind : List UInt8} {v : JsonValue} :
      Blanks before → IsValue bs v → Blanks behind → IsElement (before ++ (bs ++ behind)) v

/-- The bytes are the texts of one value or more, with commas between them. -/
inductive AreItems : List UInt8 → List JsonValue → Prop
  | last {bs : List UInt8} {item : JsonValue} : IsElement bs item → AreItems bs [item]
  | more {bs more : List UInt8} {item : JsonValue} {items : List JsonValue} :
      IsElement bs item → AreItems more items → AreItems (bs ++ 0x2C :: more) (item :: items)

inductive IsMember : List UInt8 → Option String × JsonValue → Prop
  | keyed {before key behind bs : List UInt8} {fragments : List Fragment} {v : JsonValue} :
      Blanks before → Spells key fragments → Blanks behind → IsElement bs v →
        IsMember (before ++ 0x22 :: (key ++ 0x22 :: (behind ++ 0x3A :: bs)))
          (ofFragments? fragments, v)

inductive AreMembers : List UInt8 → List (Option String × JsonValue) → Prop
  | last {bs : List UInt8} {member : Option String × JsonValue} :
      IsMember bs member → AreMembers bs [member]
  | more {bs more : List UInt8} {member : Option String × JsonValue}
      {members : List (Option String × JsonValue)} :
      IsMember bs member → AreMembers more members →
        AreMembers (bs ++ 0x2C :: more) (member :: members)

end

/-! ### Blanks in front -/

@[simp] theorem readValue?_dropBlanks (depth : Nat) (bs : List UInt8) :
    readValue? depth (dropBlanks bs) = readValue? depth bs := by
  cases depth with
  | zero => rfl
  | succ depth => rw [readValue?, readValue?, dropBlanks_dropBlanks]

@[simp] theorem readItems?_dropBlanks (depth : Nat) (bs : List UInt8) :
    readItems? depth (dropBlanks bs) = readItems? depth bs := by
  cases depth with
  | zero => rfl
  | succ depth => rw [readItems?, readItems?, readValue?_dropBlanks]

@[simp] theorem readMembers?_dropBlanks (depth : Nat) (bs : List UInt8) :
    readMembers? depth (dropBlanks bs) = readMembers? depth bs := by
  cases depth with
  | zero => rfl
  | succ depth => rw [readMembers?, readMembers?, dropBlanks_dropBlanks]

/-! ### What is read has the form -/

/-- Within the depth, only what has the form is read. -/
structure ReadsForms (depth : Nat) : Prop where
  value : ∀ bs v rest, readValue? depth bs = some (v, rest) →
    ∃ before text, Blanks before ∧ IsValue text v ∧ bs = before ++ (text ++ rest)
  items : ∀ bs items rest, readItems? depth bs = some (items, rest) →
    ∃ text, AreItems text items ∧ bs = text ++ 0x5D :: rest
  members : ∀ bs members rest, readMembers? depth bs = some (members, rest) →
    ∃ text, AreMembers text members ∧ bs = text ++ 0x7D :: rest

section

variable {depth : Nat} (h : ReadsForms depth)

include h

theorem ReadsForms.value_succ {bs rest : List UInt8} {v : JsonValue}
    (hread : readValue? (depth + 1) bs = some (v, rest)) :
    ∃ before text, Blanks before ∧ IsValue text v ∧ bs = before ++ (text ++ rest) := by
  obtain ⟨before, hbefore, hbs⟩ := exists_blanks_append bs
  suffices hform : ∃ text, IsValue text v ∧ dropBlanks bs = text ++ rest by
    obtain ⟨text, htext, heq⟩ := hform
    exact ⟨before, text, hbefore, htext, hbs.trans (congrArg (before ++ ·) heq)⟩
  rw [readValue?] at hread
  split at hread
  · rename_i bs heq
    obtain ⟨⟨fragments, behind⟩, hfragments, hv⟩ := Option.map_eq_some_iff.mp hread
    cases hv
    obtain ⟨text, htext, rfl⟩ := exists_spells hfragments
    exact ⟨_, .text htext, by simp [heq]⟩
  · rename_i bs heq
    obtain ⟨blanks, hblanks, hbs⟩ := exists_blanks_append bs
    split at hread
    · rename_i behind hclosed
      cases hread
      exact ⟨_, .emptyArray hblanks, by rw [heq, hbs, hclosed]; simp⟩
    · rw [readItems?_dropBlanks] at hread
      obtain ⟨⟨items, behind⟩, hitems, hv⟩ := Option.map_eq_some_iff.mp hread
      cases hv
      obtain ⟨text, htext, rfl⟩ := h.items _ _ _ hitems
      exact ⟨_, .array htext, by simp [heq]⟩
  · rename_i bs heq
    obtain ⟨blanks, hblanks, hbs⟩ := exists_blanks_append bs
    split at hread
    · rename_i behind hclosed
      cases hread
      exact ⟨_, .emptyObject hblanks, by rw [heq, hbs, hclosed]; simp⟩
    · rw [readMembers?_dropBlanks] at hread
      obtain ⟨⟨members, behind⟩, hmembers, hv⟩ := Option.map_eq_some_iff.mp hread
      cases hv
      obtain ⟨text, htext, rfl⟩ := h.members _ _ _ hmembers
      exact ⟨_, .object htext, by simp [heq]⟩
  · rename_i heq
    cases hread
    exact ⟨_, .null, heq⟩
  · rename_i heq
    cases hread
    exact ⟨_, .yes, heq⟩
  · rename_i heq
    cases hread
    exact ⟨_, .no, heq⟩
  · obtain ⟨behind, hnumber, hv⟩ := Option.map_eq_some_iff.mp hread
    cases hv
    obtain ⟨number, hnumber, heq⟩ := exists_number hnumber
    exact ⟨_, .number hnumber, heq⟩

/-- A value that is read and the blanks behind it. -/
theorem ReadsForms.element {bs rest : List UInt8} {v : JsonValue}
    (hread : readValue? depth bs = some (v, rest)) :
    ∃ text, IsElement text v ∧ bs = text ++ dropBlanks rest := by
  obtain ⟨before, text, hbefore, htext, rfl⟩ := h.value _ _ _ hread
  obtain ⟨behind, hbehind, hrest⟩ := exists_blanks_append rest
  refine ⟨_, .value hbefore htext hbehind, ?_⟩
  rw [List.append_assoc, List.append_assoc, ← hrest]

theorem ReadsForms.items_succ {bs rest : List UInt8} {items : List JsonValue}
    (hread : readItems? (depth + 1) bs = some (items, rest)) :
    ∃ text, AreItems text items ∧ bs = text ++ 0x5D :: rest := by
  rw [readItems?] at hread
  obtain ⟨⟨item, behind⟩, hitem, hnext⟩ := Option.bind_eq_some_iff.mp hread
  obtain ⟨text, htext, rfl⟩ := h.element hitem
  simp only at hnext
  split at hnext
  · rename_i heq
    cases hnext
    exact ⟨_, .last htext, by rw [heq]⟩
  · rename_i behind heq
    obtain ⟨⟨items, behind'⟩, hitems, hitem⟩ := Option.bind_eq_some_iff.mp hnext
    cases hitem
    obtain ⟨more, hmore, rfl⟩ := h.items _ _ _ hitems
    exact ⟨_, .more htext hmore, by simp [heq]⟩
  · exact nomatch hnext

theorem ReadsForms.members_succ {bs rest : List UInt8}
    {members : List (Option String × JsonValue)}
    (hread : readMembers? (depth + 1) bs = some (members, rest)) :
    ∃ text, AreMembers text members ∧ bs = text ++ 0x7D :: rest := by
  obtain ⟨before, hbefore, hbs⟩ := exists_blanks_append bs
  rw [readMembers?] at hread
  split at hread
  · rename_i start hquote
    obtain ⟨⟨fragments, behind⟩, hfragments, hkeyed⟩ := Option.bind_eq_some_iff.mp hread
    obtain ⟨key, hkey, rfl⟩ := exists_spells hfragments
    obtain ⟨blanks, hblanks, hbehind⟩ := exists_blanks_append behind
    simp only at hkeyed
    split at hkeyed
    · rename_i start hcolon
      obtain ⟨⟨v, behind'⟩, hv, hnext⟩ := Option.bind_eq_some_iff.mp hkeyed
      obtain ⟨text, htext, rfl⟩ := h.element hv
      have hmember := IsMember.keyed hbefore hkey hblanks htext
      simp only at hnext
      split at hnext
      · rename_i heq
        cases hnext
        exact ⟨_, .last hmember, by rw [hbs, hquote, hbehind, hcolon, heq]; simp⟩
      · rename_i behind'' heq
        obtain ⟨⟨members, behind'⟩, hmembers, hmember'⟩ := Option.bind_eq_some_iff.mp hnext
        cases hmember'
        obtain ⟨more, hmore, rfl⟩ := h.members _ _ _ hmembers
        exact ⟨_, .more hmember hmore, by rw [hbs, hquote, hbehind, hcolon, heq]; simp⟩
      · exact nomatch hnext
    · exact nomatch hkeyed
  · exact nomatch hread

end

theorem readsForms (depth : Nat) : ReadsForms depth := by
  induction depth with
  | zero => exact ⟨nofun, nofun, nofun⟩
  | succ depth ih =>
      exact ⟨fun _ _ _ => ih.value_succ, fun _ _ _ => ih.items_succ, fun _ _ _ => ih.members_succ⟩

/-! ### What has the form is read -/

theorem isJsonBlank_cases {b : UInt8} (h : isJsonBlank b) :
    b = 0x20 ∨ b = 0x0A ∨ b = 0x09 ∨ b = 0x0D := by
  simpa [isJsonBlank, or_assoc] using h

theorem EndsNumber.blanks_append {blanks rest : List UInt8} (h : EndsNumber rest)
    (hblanks : Blanks blanks) : EndsNumber (blanks ++ rest) := by
  cases blanks with
  | nil => exact h
  | cons b blanks =>
      intro first hfirst
      obtain rfl := Option.some.inj hfirst
      rcases isJsonBlank_cases (hblanks b (by simp)) with rfl | rfl | rfl | rfl <;> decide

theorem endsNumber_cons {b : UInt8} (h : ¬isDigit b ∧ b ≠ 0x2E ∧ b ≠ 0x65 ∧ b ≠ 0x45)
    (rest : List UInt8) : EndsNumber (b :: rest) :=
  fun _ hb => Option.some.inj hb ▸ h

theorem not_isJsonBlank_of_number {b : UInt8} (h : b = 0x2D ∨ isDigit b) : ¬isJsonBlank b := by
  intro hblank
  rcases isJsonBlank_cases hblank with rfl | rfl | rfl | rfl <;> exact absurd h (by decide)

theorem readValue?_number (depth : Nat) {bs rest : List UInt8} (h : IsNumber bs)
    (hrest : EndsNumber rest) : readValue? (depth + 1) (bs ++ rest) = some (.number, rest) := by
  have hread := h.afterNumber? hrest
  obtain ⟨b, tail, rfl, hb⟩ := h.exists_cons
  have hne {first : UInt8} {behind : List UInt8} (hfirst : ¬(first = 0x2D ∨ isDigit first)) :
      b :: (tail ++ rest) ≠ first :: behind :=
    fun heq => hfirst ((List.cons.inj heq).1 ▸ hb)
  rw [List.cons_append] at hread ⊢
  rw [readValue?, dropBlanks_cons (not_isJsonBlank_of_number hb)]
  split
  · exact absurd ‹_› (hne (by decide))
  · exact absurd ‹_› (hne (by decide))
  · exact absurd ‹_› (hne (by decide))
  · exact absurd ‹_› (hne (by decide))
  · exact absurd ‹_› (hne (by decide))
  · exact absurd ‹_› (hne (by decide))
  · rw [hread]
    rfl

theorem readValue?_text (depth : Nat) {bs : List UInt8} {fragments : List Fragment}
    (h : Spells bs fragments) (rest : List UInt8) :
    readValue? (depth + 1) (0x22 :: (bs ++ 0x22 :: rest)) =
      some (.text (ofFragments? fragments), rest) := by
  rw [readValue?, dropBlanks_cons (by decide)]
  simp only [h.readFragments?]
  rfl

theorem readValue?_emptyArray (depth : Nat) {blanks : List UInt8} (h : Blanks blanks)
    (rest : List UInt8) :
    readValue? (depth + 1) (0x5B :: (blanks ++ 0x5D :: rest)) = some (.array [], rest) := by
  have hfirst : dropBlanks (0x5B :: (blanks ++ 0x5D :: rest)) =
      0x5B :: (blanks ++ 0x5D :: rest) := rfl
  have hlast : dropBlanks (0x5D :: rest) = 0x5D :: rest := rfl
  rw [readValue?]
  simp only [hfirst, dropBlanks_append h, hlast]

theorem readValue?_emptyObject (depth : Nat) {blanks : List UInt8} (h : Blanks blanks)
    (rest : List UInt8) :
    readValue? (depth + 1) (0x7B :: (blanks ++ 0x7D :: rest)) = some (.object [], rest) := by
  have hfirst : dropBlanks (0x7B :: (blanks ++ 0x7D :: rest)) =
      0x7B :: (blanks ++ 0x7D :: rest) := rfl
  have hlast : dropBlanks (0x7D :: rest) = 0x7D :: rest := rfl
  rw [readValue?]
  simp only [hfirst, dropBlanks_append h, hlast]

theorem readValue?_array (depth : Nat) {bs : List UInt8}
    (h : ∀ behind, dropBlanks bs ≠ 0x5D :: behind) :
    readValue? (depth + 1) (0x5B :: bs) =
      (readItems? depth bs).map fun (items, rest) => (.array items, rest) := by
  have hfirst : dropBlanks (0x5B :: bs) = 0x5B :: bs := rfl
  rw [readValue?]
  simp only [hfirst, readItems?_dropBlanks]

theorem readValue?_object (depth : Nat) {bs : List UInt8}
    (h : ∀ behind, dropBlanks bs ≠ 0x7D :: behind) :
    readValue? (depth + 1) (0x7B :: bs) =
      (readMembers? depth bs).map fun (members, rest) => (.object members, rest) := by
  have hfirst : dropBlanks (0x7B :: bs) = 0x7B :: bs := rfl
  rw [readValue?]
  simp only [hfirst, readMembers?_dropBlanks]

theorem IsValue.exists_cons {bs : List UInt8} {v : JsonValue} (h : IsValue bs v) :
    ∃ b tail, bs = b :: tail ∧ ¬isJsonBlank b ∧ b ≠ 0x5D := by
  cases h with
  | number h =>
      obtain ⟨b, tail, rfl, hb⟩ := h.exists_cons
      refine ⟨b, tail, rfl, not_isJsonBlank_of_number hb, ?_⟩
      rintro rfl
      exact absurd hb (by decide)
  | _ => exact ⟨_, _, rfl, by decide, by decide⟩

/-- No bracket closes an array in front of an item. -/
theorem AreItems.not_closed {bs : List UInt8} {items : List JsonValue} (h : AreItems bs items)
    (rest behind : List UInt8) : dropBlanks (bs ++ rest) ≠ 0x5D :: behind := by
  have hfirst {bs : List UInt8} {v : JsonValue} (h : IsElement bs v) (rest : List UInt8) :
      dropBlanks (bs ++ rest) ≠ 0x5D :: behind := by
    obtain ⟨hbefore, hvalue, -⟩ := h
    obtain ⟨b, tail, rfl, hblank, hb⟩ := hvalue.exists_cons
    simp only [List.append_assoc, List.cons_append]
    rw [dropBlanks_append hbefore, dropBlanks_cons hblank]
    exact fun heq => hb (List.cons.inj heq).1
  cases h with
  | last h => exact hfirst h rest
  | more h _ =>
      rw [List.append_assoc]
      exact hfirst h _

theorem AreMembers.not_closed {bs : List UInt8} {members : List (Option String × JsonValue)}
    (h : AreMembers bs members) (rest behind : List UInt8) :
    dropBlanks (bs ++ rest) ≠ 0x7D :: behind := by
  have hfirst {bs : List UInt8} {member : Option String × JsonValue} (h : IsMember bs member)
      (rest : List UInt8) : dropBlanks (bs ++ rest) ≠ 0x7D :: behind := by
    obtain ⟨hbefore, -, -, -⟩ := h
    rw [List.append_assoc, dropBlanks_append hbefore, List.cons_append,
      dropBlanks_cons (by decide)]
    exact fun heq => absurd (List.cons.inj heq).1 (by decide)
  cases h with
  | last h => exact hfirst h rest
  | more h _ =>
      rw [List.append_assoc]
      exact hfirst h _

/-- What is made of an item that is read and of what comes behind it. -/
def itemsFrom? (depth : Nat) (item : JsonValue) :
    List UInt8 → Option (List JsonValue × List UInt8)
  | 0x5D :: rest => some ([item], rest)
  | 0x2C :: rest => do
    let (items, rest) ← readItems? depth rest
    some (item :: items, rest)
  | _ => none

/-- What is made of a member that is read and of what comes behind it. -/
def membersFrom? (depth : Nat) (member : Option String × JsonValue) :
    List UInt8 → Option (List (Option String × JsonValue) × List UInt8)
  | 0x7D :: rest => some ([member], rest)
  | 0x2C :: rest => do
    let (members, rest) ← readMembers? depth rest
    some (member :: members, rest)
  | _ => none

/-- Within the depth, all that has the form is read. -/
structure ReadsAll (depth : Nat) : Prop where
  value : ∀ bs v rest, IsValue bs v → EndsNumber rest → 2 * bs.length ≤ depth →
    readValue? depth (bs ++ rest) = some (v, rest)
  items : ∀ bs items rest, AreItems bs items → 2 * bs.length + 1 ≤ depth →
    readItems? depth (bs ++ 0x5D :: rest) = some (items, rest)
  members : ∀ bs members rest, AreMembers bs members → 2 * bs.length + 1 ≤ depth →
    readMembers? depth (bs ++ 0x7D :: rest) = some (members, rest)

section

variable {depth : Nat} (h : ReadsAll depth)

include h

theorem ReadsAll.value_succ {bs rest : List UInt8} {v : JsonValue} (hv : IsValue bs v)
    (hrest : EndsNumber rest) (hdepth : 2 * bs.length ≤ depth + 1) :
    readValue? (depth + 1) (bs ++ rest) = some (v, rest) := by
  cases hv with
  | null | yes | no => rfl
  | number hnumber => exact readValue?_number depth hnumber hrest
  | text htext =>
      simpa using readValue?_text depth htext rest
  | emptyArray hblanks =>
      rw [List.cons_append, List.append_assoc]
      exact readValue?_emptyArray depth hblanks rest
  | emptyObject hblanks =>
      rw [List.cons_append, List.append_assoc]
      exact readValue?_emptyObject depth hblanks rest
  | array hitems =>
      rw [List.length_cons, List.length_append] at hdepth
      rw [List.cons_append, List.append_assoc, readValue?_array depth (hitems.not_closed _)]
      exact congrArg _ (h.items _ _ _ hitems (by omega))
  | object hmembers =>
      rw [List.length_cons, List.length_append] at hdepth
      rw [List.cons_append, List.append_assoc, readValue?_object depth (hmembers.not_closed _)]
      exact congrArg _ (h.members _ _ _ hmembers (by omega))

/-- An element is read up to the blanks behind it. -/
theorem ReadsAll.element {bs rest : List UInt8} {v : JsonValue} (hv : IsElement bs v)
    (hrest : EndsNumber rest) (hdepth : 2 * bs.length ≤ depth) :
    ∃ behind, readValue? depth (bs ++ rest) = some (v, behind) ∧
      dropBlanks behind = dropBlanks rest := by
  obtain @⟨before, bs, behind, v, hbefore, hv, hbehind⟩ := hv
  refine ⟨behind ++ rest, ?_, dropBlanks_append hbehind rest⟩
  have hread := h.value bs v (behind ++ rest) hv (hrest.blanks_append hbehind)
    (by simp at hdepth; omega)
  rw [← readValue?_dropBlanks, List.append_assoc, dropBlanks_append hbefore,
    readValue?_dropBlanks, List.append_assoc, hread]

theorem ReadsAll.readItems?_eq {bs rest : List UInt8} {item : JsonValue}
    (hitem : IsElement bs item) (hrest : EndsNumber rest) (hdepth : 2 * bs.length ≤ depth) :
    readItems? (depth + 1) (bs ++ rest) = itemsFrom? depth item (dropBlanks rest) := by
  obtain ⟨behind, hread, hbehind⟩ := h.element hitem hrest hdepth
  rw [readItems?, hread, ← hbehind]
  rfl

theorem ReadsAll.items_succ {bs rest : List UInt8} {items : List JsonValue}
    (hitems : AreItems bs items) (hdepth : 2 * bs.length + 1 ≤ depth + 1) :
    readItems? (depth + 1) (bs ++ 0x5D :: rest) = some (items, rest) := by
  cases hitems with
  | last hitem => exact h.readItems?_eq hitem (endsNumber_cons (by decide) rest) (by omega)
  | @more bs more item items hitem hitems =>
      rw [List.length_append, List.length_cons] at hdepth
      have hcomma : dropBlanks (0x2C :: (more ++ 0x5D :: rest)) =
          0x2C :: (more ++ 0x5D :: rest) := rfl
      rw [List.append_assoc, List.cons_append,
        h.readItems?_eq hitem (endsNumber_cons (by decide) _) (by omega), hcomma, itemsFrom?,
        h.items more items rest hitems (by omega)]
      rfl

theorem ReadsAll.readMembers?_eq {bs rest : List UInt8} {member : Option String × JsonValue}
    (hmember : IsMember bs member) (hrest : EndsNumber rest) (hdepth : 2 * bs.length ≤ depth) :
    readMembers? (depth + 1) (bs ++ rest) = membersFrom? depth member (dropBlanks rest) := by
  obtain @⟨before, key, blanks, bs, fragments, v, hbefore, hkey, hblanks, hv⟩ := hmember
  simp only [List.length_append, List.length_cons] at hdepth
  obtain ⟨behind, hread, hbehind⟩ := h.element hv hrest (by omega)
  have hquote : dropBlanks (0x22 :: (key ++ 0x22 :: (blanks ++ 0x3A :: (bs ++ rest)))) =
      0x22 :: (key ++ 0x22 :: (blanks ++ 0x3A :: (bs ++ rest))) := rfl
  have hcolon : dropBlanks (0x3A :: (bs ++ rest)) = 0x3A :: (bs ++ rest) := rfl
  simp only [List.append_assoc, List.cons_append]
  rw [readMembers?]
  simp only [dropBlanks_append hbefore, hquote, hkey.readFragments?, dropBlanks_append hblanks,
    hcolon, hread, hbehind, Option.bind_eq_bind, Option.bind_some]
  rfl

theorem ReadsAll.members_succ {bs rest : List UInt8}
    {members : List (Option String × JsonValue)} (hmembers : AreMembers bs members)
    (hdepth : 2 * bs.length + 1 ≤ depth + 1) :
    readMembers? (depth + 1) (bs ++ 0x7D :: rest) = some (members, rest) := by
  cases hmembers with
  | last hmember => exact h.readMembers?_eq hmember (endsNumber_cons (by decide) rest) (by omega)
  | @more bs more member members hmember hmembers =>
      rw [List.length_append, List.length_cons] at hdepth
      have hcomma : dropBlanks (0x2C :: (more ++ 0x7D :: rest)) =
          0x2C :: (more ++ 0x7D :: rest) := rfl
      rw [List.append_assoc, List.cons_append,
        h.readMembers?_eq hmember (endsNumber_cons (by decide) _) (by omega), hcomma, membersFrom?,
        h.members more members rest hmembers (by omega)]
      rfl

end

theorem readsAll (depth : Nat) : ReadsAll depth := by
  induction depth with
  | zero =>
      refine ⟨fun bs v rest hv _ hdepth => ?_, nofun, nofun⟩
      obtain ⟨b, tail, rfl, -⟩ := hv.exists_cons
      simp at hdepth
  | succ depth ih =>
      exact ⟨fun _ _ _ => ih.value_succ, fun _ _ _ => ih.items_succ, fun _ _ _ => ih.members_succ⟩

/-! ### Whole texts -/

/-- Bytes have a value just if they are the text of it, with blanks around it. -/
theorem JsonValue.ofBytes?_eq_some_iff (bs : List UInt8) (v : JsonValue) :
    ofBytes? bs = some v ↔ IsElement bs v := by
  constructor
  · intro h
    obtain ⟨⟨v', rest⟩, hread, h⟩ := Option.bind_eq_some_iff.mp h
    obtain ⟨text, htext, hbs⟩ := (readsForms _).element hread
    simp only at h
    split at h
    · rename_i hend
      cases h
      rwa [hbs, List.isEmpty_iff.mp hend, List.append_nil]
    · exact nomatch h
  · intro h
    have hend : EndsNumber [] := nofun
    obtain ⟨behind, hread, hbehind⟩ :=
      (readsAll (2 * bs.length + 2)).element h hend (by omega)
    rw [List.append_nil] at hread
    rw [ofBytes?, hread]
    simp only [Option.bind_eq_bind, Option.bind_some, hbehind]
    rfl

end Json

end Protogen
