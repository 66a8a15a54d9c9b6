import Mathlib.Data.List.DropRight
import Mathlib.Data.List.Forall2
import Protogen.Source.Render

/-!
# Generated text

The form of what is written for a file, without the measuring of lines by which it is laid
out. Everything is introduced by its documentation, a comment for each line of it, and by its
attributes; then comes the declaration. The attribute of a member ends with its number, and
that of a oneof with the numbers of its variants. Brackets are either closed on the line on
which they are opened, or everything between them has a line of its own.
-/

namespace Protogen

namespace Source

open Descriptor Text

/-- The text consists of one piece for each element of the list, in the same order. -/
def InSequence {α : Type} (written : α → String → Prop) (xs : List α) (text : String) : Prop :=
  ∃ texts, List.Forall₂ written xs texts ∧ text = String.join texts

/-- The spaces at the end of a line of documentation are left out. -/
def IsDocLine (columns : Nat) (doc line : String) : Prop :=
  ∃ body count, doc = body ++ spaces count ∧ body.toList.getLast? ≠ some ' ' ∧
    line = indentation columns ++ "///" ++ body ++ "\n"

/-- Texts between brackets, on one line or each on a line of its own, of which `last` ends the
last one. -/
inductive IsBracketed (columns : Nat) (opening closing last : String) (texts : List String) :
    String → Prop
  | flat : IsBracketed columns opening closing last texts
      (opening ++ ", ".intercalate texts ++ closing)
  | broken : IsBracketed columns opening closing last texts
      (opening ++ "\n" ++ indentation (columns + 4) ++
        (",\n" ++ indentation (columns + 4)).intercalate texts ++ last ++ "\n" ++
        indentation columns ++ closing)

def IsAttribute (columns : Nat) (name : String) (arguments : List String) (text : String) : Prop :=
  ∃ line, IsBracketed columns ("#[" ++ name ++ "(") ")]" "" arguments line ∧
    text = indentation columns ++ line ++ "\n"

/-- A row as it stands on a line, or broken somewhere. -/
inductive IsLaidOut (row : List Piece) : String → Prop
  | flat : IsLaidOut row (flatRow row)
  | placed (columns room : Int) (after : Nat) :
      IsLaidOut row (placeRow columns true room after row).1

/-- The argument of an attribute that gives a number. -/
def tagText (n : Int32) : String := "tag = \"" ++ toString n.toInt ++ "\""

def tagsText (ns : List Int32) : String :=
  "tags = \"" ++ ", ".intercalate (ns.map fun n => toString n.toInt) ++ "\""

namespace Member

def docs : Member → List String
  | .field docs _ _ _ _ | .map docs _ _ _ _ | .oneof docs _ _ _ _ => docs

def name : Member → String
  | .field _ name _ _ _ | .map _ name _ _ _ | .oneof _ name _ _ _ => name

/-- The arguments of the attribute of a member, up to its numbers. -/
def kind : Member → List String
  | .field _ _ _ element cardinality => element.argument :: cardinality.arguments
  | .map _ _ _ key value => ["map = " ++ literal (key.name ++ ", " ++ value.mapArgument)]
  | .oneof _ _ moduleName typeName _ => ["oneof = " ++ literal (moduleName ++ "::" ++ typeName)]

/-- The last argument of the attribute of a member. -/
def numbering : Member → String
  | .field _ _ number _ _ | .map _ _ number _ _ => tagText number
  | .oneof _ _ _ _ numbers => tagsText numbers

def typeRow : Member → List Piece
  | .field _ _ _ element cardinality => cardinality.around element.row
  | .map _ _ _ key value => genericRow "::std::collections::HashMap" [scalarRow key, value.row]
  | .oneof _ _ moduleName typeName _ =>
    Cardinality.around [.text (moduleName ++ "::" ++ typeName)] .optional

/-- The arguments of the attribute of a member. -/
def arguments : Member → List String
  | .field _ _ number element cardinality =>
    element.argument :: cardinality.arguments ++ [tagArgument number]
  | .map _ _ number key value =>
    ["map = " ++ literal (key.name ++ ", " ++ value.mapArgument), tagArgument number]
  | .oneof _ _ moduleName typeName numbers =>
    ["oneof = " ++ literal (moduleName ++ "::" ++ typeName), tagsArgument numbers]

/-- What is written for a member of a structure. -/
def WrittenAs (columns : Nat) (member : Member) (text : String) : Prop :=
  ∃ comment encoding type,
    InSequence (IsDocLine columns) member.docs comment ∧
      IsAttribute columns "prost" (member.kind ++ [member.numbering]) encoding ∧
      IsLaidOut member.typeRow type ∧
      text = comment ++ encoding ++
        (indentation columns ++ "pub " ++ member.name ++ ": " ++ type ++ ",\n")

end Member

/-- What is written for a variant of a oneof. -/
def Variant.WrittenAs (columns : Nat) (v : Variant) (text : String) : Prop :=
  ∃ comment encoding type line,
    InSequence (IsDocLine columns) v.docs comment ∧
      IsAttribute columns "prost" [v.element.argument, tagText v.number] encoding ∧
      IsLaidOut v.element.row type ∧ IsBracketed columns (v.name ++ "(") ")," "," [type] line ∧
      text = comment ++ encoding ++ (indentation columns ++ line ++ "\n")

/-- What is written for a variant of an enum. -/
def EnumVariant.WrittenAs (columns : Nat) (v : EnumVariant) (text : String) : Prop :=
  ∃ comment, InSequence (IsDocLine columns) v.docs comment ∧
    text = comment ++ (indentation columns ++ v.name ++ " = " ++ toString v.number.toInt ++ ",\n")

/-- A declaration with something in braces. -/
inductive IsBlock (columns : Nat) (head : String) : String → String → Prop
  | empty : IsBlock columns head "" (indentation columns ++ head ++ " \x7b\x7d\n")
  | filled {body : String} : body ≠ "" → IsBlock columns head body
      (indentation columns ++ head ++ " \x7b\n" ++ body ++ indentation columns ++ "\x7d\n")

mutual

/-- What is written for an item. -/
inductive Item.WrittenAs : Nat → Item → String → Prop
  | struct {columns : Nat} {docs : List String} {name : String} {members : List Member}
      {comment traits body block : String} :
      InSequence (IsDocLine columns) docs comment →
      IsAttribute columns "derive" messageTraits traits →
      InSequence (Member.WrittenAs (columns + 4)) members body →
      IsBlock columns ("pub struct " ++ name) body block →
      Item.WrittenAs columns (.struct docs name members) (comment ++ traits ++ block)
  | oneof {columns : Nat} {docs : List String} {name : String} {variants : List Variant}
      {comment traits body block : String} :
      InSequence (IsDocLine columns) docs comment →
      IsAttribute columns "derive" oneofTraits traits →
      InSequence (Variant.WrittenAs (columns + 4)) variants body →
      IsBlock columns ("pub enum " ++ name) body block →
      Item.WrittenAs columns (.oneof docs name variants) (comment ++ traits ++ block)
  | enum {columns : Nat} {docs : List String} {name : String} {variants : List EnumVariant}
      {comment traits width body block : String} :
      InSequence (IsDocLine columns) docs comment →
      IsAttribute columns "derive" enumTraits traits →
      IsAttribute columns "repr" ["i32"] width →
      InSequence (EnumVariant.WrittenAs (columns + 4)) variants body →
      IsBlock columns ("pub enum " ++ name) body block →
      Item.WrittenAs columns (.enum docs name variants)
        (comment ++ traits ++ width ++ block ++ conversions columns name variants)
  | module {columns : Nat} {docs : List String} {name : String} {items : List Item}
      {comment body block : String} :
      InSequence (IsDocLine columns) docs comment →
      ItemsWrittenAs (columns + 4) items body →
      IsBlock columns ("pub mod " ++ name) body block →
      Item.WrittenAs columns (.module docs name items) (comment ++ block)

inductive ItemsWrittenAs : Nat → List Item → String → Prop
  | nil {columns : Nat} : ItemsWrittenAs columns [] ""
  | cons {columns : Nat} {item : Item} {items : List Item} {first rest : String} :
      Item.WrittenAs columns item first → ItemsWrittenAs columns items rest →
      ItemsWrittenAs columns (item :: items) (first ++ rest)

end

/-- What is written for a file: where it comes from, an empty line, and its items. -/
def FileWrittenAs (schemaFile : String) (items : List Item) (text : String) : Prop :=
  ∃ body, ItemsWrittenAs 0 items body ∧
    text = "// @generated by tilebox-generate from " ++ schemaFile ++ ". DO NOT EDIT.\n" ++ "\n" ++
      body

/-! ### Rows -/

theorem flatRow_append (row more : List Piece) :
    flatRow (row ++ more) = flatRow row ++ flatRow more := by
  induction row with
  | nil => simp [flatRow]
  | cons p row ih => rw [List.cons_append, flatRow, flatRow, ih, String.append_assoc]

theorem widthToGap_append (after : Nat) (row more : List Piece) :
    widthToGap after (row ++ more) = widthToGap (widthToGap after more) row := by
  induction row with
  | nil => rfl
  | cons p row ih =>
      cases p with
      | gap | seam => rfl
      | text | box => simp [widthToGap, ih]

/-- What follows a row counts as what must fit behind it. -/
theorem placeRow_append (columns : Int) (even : Bool) (room : Int) (after : Nat)
    (row more : List Piece) :
    let front := placeRow columns even room (widthToGap after more) row
    let back := placeRow columns even front.2 after more
    placeRow columns even room after (row ++ more) = (front.1 ++ back.1, back.2) := by
  induction row generalizing room with
  | nil => simp [placeRow]
  | cons p row ih =>
      simp only [List.cons_append, placeRow, widthToGap_append, ih, String.append_assoc]

theorem exists_placeRow_append (columns : Int) (even : Bool) (room : Int) (after : Nat)
    (row more : List Piece) : ∃ after' room',
      (placeRow columns even room after (row ++ more)).1 =
        (placeRow columns even room after' row).1 ++ (placeRow columns even room' after more).1 :=
  ⟨_, _, congrArg Prod.fst (placeRow_append columns even room after row more)⟩

theorem isLaidOut_text {s text : String} (h : IsLaidOut [.text s] text) : text = s := by
  cases h with
  | flat => simp [flatRow, Piece.flat]
  | placed => simp [placeRow, Piece.place]

theorem flatRow_separated (rows : List (List Piece)) :
    flatRow (Piece.separated rows) = ", ".intercalate (rows.map flatRow) := by
  induction rows using Piece.separated.induct with
  | case1 => rfl
  | case2 row => simp [Piece.separated]
  | case3 row rows hne ih =>
      have hcomma : Piece.flat (.text ",") ++ Piece.flat .space = ", " := rfl
      rw [Piece.separated.eq_3 _ _ hne, flatRow_append, flatRow, flatRow, ih, List.map_cons,
        String.intercalate_cons_of_ne_nil (by simpa using hne), ← hcomma]
      simp only [String.append_assoc]

/-- In an even box a comma ends the line. -/
theorem exists_placeRow_comma (columns room : Int) (after : Nat) (row : List Piece) :
    ∃ room', (placeRow columns true room after (.text "," :: .space :: row)).1 =
      ",\n" ++ indentation columns ++ (placeRow columns true room' after row).1 := by
  have hcomma : ",\n" = "," ++ "\n" := rfl
  refine ⟨(breakLine columns ⟨1, 0, "", "", ""⟩).2, ?_⟩
  simp only [placeRow, Piece.place, Piece.space, breakLine, hcomma, String.append_assoc,
    String.empty_append, String.append_empty, Int.add_zero]
  rfl

/-- In an even box every row has a line of its own. -/
theorem placeRow_separated (columns room : Int) (after : Nat) (rows : List (List Piece)) :
    ∃ texts, List.Forall₂ IsLaidOut rows texts ∧
      (placeRow columns true room after (Piece.separated rows)).1 =
        (",\n" ++ indentation columns).intercalate texts := by
  induction rows using Piece.separated.induct generalizing room with
  | case1 => exact ⟨[], .nil, by simp [Piece.separated, placeRow]⟩
  | case2 row =>
      exact ⟨_, .cons (.placed columns room after) .nil, by simp [Piece.separated]⟩
  | case3 row rows hne ih =>
      obtain ⟨after', room', happend⟩ := exists_placeRow_append columns true room after row
        (.text "," :: .space :: Piece.separated rows)
      obtain ⟨room'', hcomma⟩ := exists_placeRow_comma columns room' after (Piece.separated rows)
      obtain ⟨texts, htexts, hrest⟩ := ih room''
      have hsome : texts ≠ [] := by
        rintro rfl
        cases htexts
        exact hne rfl
      refine ⟨_, .cons (.placed columns room after') htexts, ?_⟩
      rw [Piece.separated.eq_3 _ _ hne, happend, hcomma, hrest,
        String.intercalate_cons_of_ne_nil hsome]
      simp only [String.append_assoc]

/-- A broken box of items begins and ends with a new line. -/
theorem exists_placeRow_items (columns : Nat) (room : Int) (after : Nat)
    (rows : List (List Piece)) (last : String) :
    ∃ texts, List.Forall₂ IsLaidOut rows texts ∧
      (placeRow (columns + 4) true room after (.tight :: Piece.separated rows ++ [.final last])).1 =
        "\n" ++ indentation (columns + 4) ++
          (",\n" ++ indentation (columns + 4)).intercalate texts ++ last ++ "\n" ++
          indentation columns := by
  have htight (room : Int) (after : Nat) : (placeRow (columns + 4) true room after [.tight]).1 =
      "\n" ++ indentation (columns + 4) := by
    simp [placeRow, Piece.place, Piece.tight, breakLine]
  have hfinal (room : Int) (after : Nat) :
      (placeRow (columns + 4) true room after [.final last]).1 =
        last ++ "\n" ++ indentation columns := by
    have hcolumns : (columns : Int) + 4 + -4 = columns := by omega
    simp [placeRow, Piece.place, Piece.final, breakLine, hcolumns]
  obtain ⟨after₁, room₁, hfront⟩ := exists_placeRow_append (columns + 4) true room after
    (.tight :: Piece.separated rows) [.final last]
  obtain ⟨after₂, room₂, hback⟩ := exists_placeRow_append (columns + 4) true room after₁
    [.tight] (Piece.separated rows)
  obtain ⟨texts, htexts, hrows⟩ := placeRow_separated (columns + 4) room₂ after₁ rows
  refine ⟨texts, htexts, ?_⟩
  rw [hfront, hfinal, ← List.singleton_append, hback, htight, hrows]
  simp only [String.append_assoc]

theorem flatRow_items (rows : List (List Piece)) (last : String) :
    flatRow (.tight :: Piece.separated rows ++ [.final last]) =
      ", ".intercalate (rows.map flatRow) := by
  rw [flatRow_append, flatRow, flatRow_separated]
  simp [flatRow, Piece.flat, Piece.tight, Piece.final, spaces]

theorem placeRow_between (columns room : Int) (opening closing : String) (p : Piece) :
    (placeRow columns true room 0 [.text opening, p, .text closing]).1 =
      opening ++ (p.place columns true (room - opening.utf8ByteSize)
        (widthToGap 0 [.text closing])).1 ++ closing := by
  simp [placeRow, Piece.place, String.append_assoc]

/-- Items between brackets stand on the line of the brackets, or each on a line of its own. -/
theorem exists_isBracketed (columns : Nat) (room : Int) (opening closing last : String)
    (rows : List (List Piece)) :
    ∃ texts, List.Forall₂ IsLaidOut rows texts ∧
      IsBracketed columns opening closing last texts
        (placeRow columns true room 0
          (.text opening :: Piece.items rows last ++ [.text closing])).1 := by
  have hflat : List.Forall₂ IsLaidOut rows (rows.map flatRow) := by
    rw [List.forall₂_map_right_iff, List.forall₂_same]
    exact fun row _ => .flat
  by_cases hrows : rows = []
  · refine ⟨_, hflat, ?_⟩
    have hline : (placeRow columns true room 0
        (.text opening :: Piece.items rows last ++ [.text closing])).1 =
          opening ++ ", ".intercalate (rows.map flatRow) ++ closing := by
      simp [hrows, Piece.items, placeRow, Piece.place]
    rw [hline]
    exact .flat
  · have hitems : Piece.items rows last =
        [.box 4 true (.tight :: Piece.separated rows ++ [.final last])] := by
      simp [Piece.items, hrows]
    rw [hitems, List.cons_append, List.singleton_append, placeRow_between, Piece.place]
    split
    · refine ⟨_, hflat, ?_⟩
      rw [flatRow_items]
      exact .flat
    · obtain ⟨texts, htexts, hlines⟩ := exists_placeRow_items columns
        (room - opening.utf8ByteSize) (widthToGap 0 [.text closing]) rows last
      refine ⟨texts, htexts, ?_⟩
      have hbroken : opening ++ ("\n" ++ indentation (columns + 4) ++
          (",\n" ++ indentation (columns + 4)).intercalate texts ++ last ++ "\n" ++
          indentation columns) ++ closing = opening ++ "\n" ++ indentation (columns + 4) ++
          (",\n" ++ indentation (columns + 4)).intercalate texts ++ last ++ "\n" ++
          indentation columns ++ closing := by
        simp only [String.append_assoc]
      rw [hlines, hbroken]
      exact .broken

/-! ### Numbers in quotes -/

theorem literalInner_of_unescaped {cs : List Char} (h : ∀ c ∈ cs, escapeChar c = [c]) :
    literalInner cs = cs := by
  induction cs with
  | nil => rfl
  | cons c cs ih =>
      obtain ⟨hc, hcs⟩ := List.forall_mem_cons.mp h
      have hnul : c ≠ '\x00' := by
        rintro rfl
        exact absurd hc (by decide)
      simp [literalInner, hnul, hc, ih hcs]

/-- Characters that need no escape stand in a literal as they are. -/
theorem literal_of_unescaped {s : String} (h : ∀ c ∈ s.toList, escapeChar c = [c]) :
    literal s = "\"" ++ s ++ "\"" := by
  rw [literal, literalInner_of_unescaped h, String.ofList_append, String.ofList_cons]
  simp

theorem escapeChar_of_isDigit {c : Char} (h : c.isDigit) : escapeChar c = [c] := by
  have hdigits : ((List.range' 48 10).all fun n =>
      escapeChar (Char.ofNat n) == [Char.ofNat n]) = true := by decide +kernel
  have hrange : c.toNat ∈ List.range' 48 10 := by
    have hfirst : '0'.toNat = 48 := rfl
    have hlast : '9'.toNat = 57 := rfl
    rw [Char.isDigit_iff_toNat, hfirst, hlast] at h
    rw [List.mem_range'_1]
    omega
  simpa using List.all_eq_true.mp hdigits _ hrange

theorem escapeChar_of_mem_numberText {n : Int32} {c : Char} (h : c ∈ (numberText n).toList) :
    escapeChar c = [c] := by
  have hdigits (m : Nat) (hc : c ∈ m.repr.toList) : escapeChar c = [c] := by
    rw [Nat.toList_repr] at hc
    exact escapeChar_of_isDigit (Nat.isDigit_of_mem_toDigits (by decide) (by decide) hc)
  have hrepr : numberText n = n.toInt.repr := rfl
  rw [hrepr] at h
  cases hn : n.toInt with
  | ofNat m =>
      rw [hn] at h
      exact hdigits m h
  | negSucc m =>
      have hminus : (Int.negSucc m).repr = "-" ++ m.succ.repr := rfl
      rw [hn, hminus, String.toList_append, List.mem_append] at h
      rcases h with h | h
      · obtain rfl : c = '-' := by simpa using h
        decide +kernel
      · exact hdigits m.succ h

theorem tagArgument_eq (n : Int32) : tagArgument n = tagText n := by
  rw [tagArgument, literal_of_unescaped fun c => escapeChar_of_mem_numberText, tagText, numberText]
  simp only [← String.append_assoc]
  rfl

theorem escapeChar_of_mem_intercalate {ns : List Int32} {c : Char}
    (h : c ∈ (", ".intercalate (ns.map numberText)).toList) : escapeChar c = [c] := by
  induction ns with
  | nil => simp at h
  | cons n ns ih =>
      by_cases hns : ns = []
      · rw [hns, List.map_singleton, String.intercalate_singleton] at h
        exact escapeChar_of_mem_numberText h
      · rw [List.map_cons, String.intercalate_cons_of_ne_nil (by simpa using hns),
          String.toList_append, String.toList_append, List.mem_append, List.mem_append] at h
        rcases h with (h | h) | h
        · exact escapeChar_of_mem_numberText h
        · obtain rfl | rfl : c = ',' ∨ c = ' ' := by simpa using h
          · decide +kernel
          · decide +kernel
        · exact ih h

theorem tagsArgument_eq (ns : List Int32) : tagsArgument ns = tagsText ns := by
  rw [tagsArgument, literal_of_unescaped fun c => escapeChar_of_mem_intercalate, tagsText]
  simp only [← String.append_assoc]
  rfl

/-! ### What is written -/

theorem isDocLine_docLine (columns : Nat) (doc : String) :
    IsDocLine columns doc (docLine columns doc) := by
  have hspaces : doc.toList.rtakeWhile (· == ' ') =
      List.replicate (doc.toList.rtakeWhile (· == ' ')).length ' ' :=
    List.eq_replicate_of_mem fun c hc => by simpa using List.mem_rtakeWhile_imp hc
  have hparts : dropTrailing (· == ' ') doc.toList ++ doc.toList.rtakeWhile (· == ' ') =
      doc.toList := List.rdropWhile_append_rtakeWhile
  refine ⟨_, (doc.toList.rtakeWhile (· == ' ')).length, ?_, ?_, rfl⟩
  · rw [spaces, ← hspaces, ← String.ofList_append, hparts, String.ofList_toList]
  · intro hlast
    rw [String.toList_ofList, dropTrailing, List.getLast?_reverse] at hlast
    have hspace := List.head?_dropWhile_not (· == ' ') doc.toList.reverse
    rw [hlast] at hspace
    simp at hspace

theorem inSequence_map {α : Type} {written : α → String → Prop} {render : α → String}
    (h : ∀ x, written x (render x)) (xs : List α) :
    InSequence written xs (String.join (xs.map render)) := by
  refine ⟨xs.map render, ?_, rfl⟩
  rw [List.forall₂_map_right_iff, List.forall₂_same]
  exact fun x _ => h x

theorem inSequence_docLines (columns : Nat) (docs : List String) :
    InSequence (IsDocLine columns) docs (docLines columns docs) :=
  inSequence_map (isDocLine_docLine columns) docs

theorem isAttribute_attributeLine (columns : Nat) (name : String) (arguments : List String) :
    IsAttribute columns name arguments (attributeLine columns name arguments) := by
  obtain ⟨texts, htexts, hline⟩ := exists_isBracketed columns (roomAfter columns)
    ("#[" ++ name ++ "(") ")]" "" (arguments.map fun a => [.text a])
  rw [List.forall₂_map_left_iff] at htexts
  have heq : arguments = texts :=
    List.forall₂_eq_eq_eq ▸ htexts.imp fun a text h => (isLaidOut_text h).symm
  subst heq
  exact ⟨_, hline, rfl⟩

theorem exists_declarationLine (columns : Nat) (name : String) (row : List Piece) :
    ∃ type, IsLaidOut row type ∧ declarationLine columns name row =
      indentation columns ++ "pub " ++ name ++ ": " ++ type ++ ",\n" := by
  let room : Int := roomAfter columns - ("pub " ++ name ++ ": ").utf8ByteSize
  have hline : declarationLine columns name row = indentation columns ++ ("pub " ++ name ++ ": " ++
      (placeRow columns true room 0 (row ++ [.text ","])).1) ++ "\n" := rfl
  obtain ⟨after', room', happend⟩ := exists_placeRow_append columns true room 0 row [.text ","]
  have hcomma : (placeRow columns true room' 0 [.text ","]).1 = "," := by
    simp [placeRow, Piece.place]
  have hend : ",\n" = "," ++ "\n" := rfl
  refine ⟨_, .placed columns room after', ?_⟩
  rw [hline, happend, hcomma, hend]
  simp only [String.append_assoc]

theorem plainLine_eq (columns : Nat) (text : String) :
    plainLine columns text = indentation columns ++ text ++ "\n" := by
  simp [plainLine, layoutLine, placeRow, Piece.place]

theorem isBlock_block (columns : Nat) (head body : String) :
    IsBlock columns head body (block columns head body) := by
  by_cases hbody : body = ""
  · have hblock : block columns head body = indentation columns ++ head ++ " \x7b\x7d\n" := by
      have hend : " \x7b\x7d\n" = " \x7b\x7d" ++ "\n" := rfl
      rw [block, if_pos (String.isEmpty_iff.mpr hbody), plainLine_eq, hend]
      simp only [String.append_assoc]
    rw [hblock, hbody]
    exact .empty
  · have hblock : block columns head body = indentation columns ++ head ++ " \x7b\n" ++ body ++
        indentation columns ++ "\x7d\n" := by
      have hopen : " \x7b\n" = " \x7b" ++ "\n" := rfl
      have hclose : "\x7d\n" = "\x7d" ++ "\n" := rfl
      rw [block, if_neg (mt String.isEmpty_iff.mp hbody), plainLine_eq, plainLine_eq, hopen, hclose]
      simp only [String.append_assoc]
    rw [hblock]
    exact .filled hbody

namespace Member

/-- A member is written as its documentation, its attribute and its declaration. -/
theorem render_eq (columns : Nat) (member : Member) :
    member.render columns = docLines columns member.docs ++
      attributeLine columns "prost" member.arguments ++
        declarationLine columns member.name member.typeRow := by
  cases member <;> rfl

theorem arguments_eq (member : Member) :
    member.arguments = member.kind ++ [member.numbering] := by
  cases member with
  | field | map => simp [arguments, kind, numbering, tagArgument_eq]
  | oneof => simp [arguments, kind, numbering, tagsArgument_eq]

theorem writtenAs_render (columns : Nat) (member : Member) :
    member.WrittenAs columns (member.render columns) := by
  obtain ⟨type, htype, hdeclaration⟩ := exists_declarationLine columns member.name member.typeRow
  refine ⟨_, _, type, inSequence_docLines columns member.docs,
    isAttribute_attributeLine columns "prost" _, htype, ?_⟩
  rw [render_eq, arguments_eq, hdeclaration]

end Member

theorem Variant.writtenAs_render (columns : Nat) (v : Variant) :
    v.WrittenAs columns (v.render columns) := by
  obtain ⟨texts, htexts, hline⟩ := exists_isBracketed columns (roomAfter columns) (v.name ++ "(")
    ")," "," [v.element.row]
  obtain ⟨type, _, htype, hnil, rfl⟩ := List.forall₂_cons_left_iff.mp htexts
  obtain rfl := List.forall₂_nil_left_iff.mp hnil
  refine ⟨_, _, type, _, inSequence_docLines columns v.docs,
    isAttribute_attributeLine columns "prost" _, htype, hline, ?_⟩
  rw [Variant.render, tagArgument_eq, layoutLine]

theorem EnumVariant.writtenAs_render (columns : Nat) (v : EnumVariant) :
    v.WrittenAs columns (v.render columns) := by
  have hline : layoutLine columns [.text (v.name ++ " = " ++ numberText v.number ++ ",")] =
      indentation columns ++ v.name ++ " = " ++ toString v.number.toInt ++ ",\n" := by
    have hend : ",\n" = "," ++ "\n" := rfl
    rw [← plainLine, plainLine_eq, hend, numberText]
    simp only [String.append_assoc]
  exact ⟨_, inSequence_docLines columns v.docs, by rw [EnumVariant.render, hline]⟩

mutual

theorem Item.writtenAs_render : ∀ (columns : Nat) (item : Item),
    item.WrittenAs columns (item.render columns)
  | columns, .struct docs name members =>
      .struct (inSequence_docLines columns docs)
        (isAttribute_attributeLine columns "derive" messageTraits)
        (inSequence_map (Member.writtenAs_render (columns + 4)) members)
        (isBlock_block columns ("pub struct " ++ name) _)
  | columns, .oneof docs name variants =>
      .oneof (inSequence_docLines columns docs)
        (isAttribute_attributeLine columns "derive" oneofTraits)
        (inSequence_map (Variant.writtenAs_render (columns + 4)) variants)
        (isBlock_block columns ("pub enum " ++ name) _)
  | columns, .enum docs name variants =>
      .enum (inSequence_docLines columns docs)
        (isAttribute_attributeLine columns "derive" enumTraits)
        (isAttribute_attributeLine columns "repr" ["i32"])
        (inSequence_map (EnumVariant.writtenAs_render (columns + 4)) variants)
        (isBlock_block columns ("pub enum " ++ name) _)
  | columns, .module docs name items =>
      .module (inSequence_docLines columns docs)
        (itemsWrittenAs_renderItems (columns + 4) items)
        (isBlock_block columns ("pub mod " ++ name) _)

theorem itemsWrittenAs_renderItems : ∀ (columns : Nat) (items : List Item),
    ItemsWrittenAs columns items (renderItems columns items)
  | _, [] => .nil
  | columns, item :: items =>
      .cons (Item.writtenAs_render columns item) (itemsWrittenAs_renderItems columns items)

end

/-- What is written out for a file has this form. -/
theorem fileWrittenAs_renderFile (schemaFile : String) (items : List Item) :
    FileWrittenAs schemaFile items (renderFile schemaFile items) := by
  refine ⟨renderItems 0 items, itemsWrittenAs_renderItems 0 items, ?_⟩
  unfold renderFile headerLine
  rfl

end Source

end Protogen
