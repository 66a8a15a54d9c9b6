import Protogen.Proofs.Generator.Collisions
import Protogen.Proofs.Generator.Documentation

/-!
# Lines of documentation

Every line of documentation becomes a comment of its own in the text of a file. Comments of the
schema are divided at their line feeds, so no line has one. A carriage return that stands in the
middle of a line is kept, though, and a comment must not have one: exactly where a comment in
force has such a carriage return, its documentation is not legal.
-/

namespace Protogen

namespace Source

open Text

/-- The text is a documentation comment of one line. A fourth slash would make it a plain one,
and a carriage return is not allowed in it. -/
def IsDocComment (columns : Nat) (text : String) : Prop :=
  ∃ body, text = indentation columns ++ "///" ++ body ++ "\n" ∧ body.toList.head? ≠ some '/' ∧
    '\n' ∉ body.toList ∧ '\r' ∉ body.toList

/-- The documentation of an item and its members, without the items in a module. -/
def Item.docLines : Item → List String
  | .struct docs _ members => docs ++ members.flatMap Member.docs
  | .oneof docs _ variants => docs ++ variants.flatMap Variant.docs
  | .enum docs _ variants => docs ++ variants.flatMap EnumVariant.docs
  | .module docs _ _ => docs

/-- The line is documentation somewhere in the tree. -/
def Documents (items : List Item) (line : String) : Prop :=
  ∃ path item, Within items path item ∧ line ∈ item.docLines

theorem Within.exists_moduleOf {root items : List Item} {path : List String} {item : Item}
    (h : Within items path item) (hroot : ModuleOf root items) :
    ∃ above, ModuleOf root above ∧ item ∈ above := by
  induction h with
  | here hitem => exact ⟨_, hroot, hitem⟩
  | inside hmodule _ ih => exact ih (hroot.inner hmodule)

/-- A line after a space is a legal comment exactly if it has no end of line in it. -/
theorem isDocComment_docLine_iff (columns : Nat) (line : String) :
    IsDocComment columns (docLine columns (" " ++ line)) ↔
      '\n' ∉ line.toList ∧ '\r' ∉ line.toList := by
  obtain ⟨body, hdoc, hbody⟩ : ∃ body,
      docLine columns (" " ++ line) = indentation columns ++ "///" ++ body ++ "\n" ∧
        body.toList = dropTrailing (· == ' ') (' ' :: line.toList) := by
    refine ⟨_, by rw [docLine], ?_⟩
    rw [String.toList_ofList, String.toList_append]
    rfl
  have hmem (c : Char) (hc : c ≠ ' ') : c ∈ body.toList ↔ c ∈ line.toList := by
    rw [hbody, mem_dropTrailing_iff (by simpa using hc)]
    simp [hc]
  have hslash : body.toList.head? ≠ some '/' := by
    have hprefix : body.toList <+: ' ' :: line.toList := by
      rw [hbody]
      exact List.rdropWhile_prefix _ _
    obtain ⟨rest, hrest⟩ := hprefix
    intro hhead
    have hstart := congrArg List.head? hrest
    rw [List.head?_append, hhead] at hstart
    simp at hstart
  rw [← hmem '\n' (by decide), ← hmem '\r' (by decide), hdoc]
  constructor
  · rintro ⟨body', htext, -, hends⟩
    rw [String.append_left_inj, String.append_right_inj] at htext
    rw [htext]
    exact hends
  · exact fun hends => ⟨body, rfl, hslash, hends⟩

end Source

namespace Generator

open Descriptor Name Source Text

/-- The elements that a declaration is about, each by the names on the way to it. -/
def Declared.elements : Declared → List (List String)
  | .message outer m =>
    (outer ++ [m.name]) :: ((plainFields m).map (fun f => outer ++ [m.name] ++ [f.name]) ++
      (spelledOneofs m).map fun p => outer ++ [m.name] ++ [p.1.name])
  | .oneof outer m o index =>
    (outer ++ [m.name] ++ [o.name]) ::
      (oneofMembers m index).map fun f => outer ++ [m.name] ++ [f.name]
  | .enum outer e =>
    (outer ++ [e.name]) :: (firstOfNumber [] e.values).map fun v => outer ++ [e.name] ++ [v.name]

/-- An item that is documented by the names of its elements has this documentation. -/
theorem DocumentedBy.docLines_eq {docs : List String → List String} {d : Declared} {item : Item}
    (h : DocumentedBy (fun names _ lines => lines = docs names) d item) :
    item.docLines = d.elements.flatMap docs := by
  have hmap {α β : Type} {names : α → List String} {lines : β → List String} {xs : List α}
      {ys : List β} (h : List.Forall₂ (fun x y => lines y = docs (names x)) xs ys) :
      ys.flatMap lines = (xs.map names).flatMap docs := by
    induction h with
    | nil => rfl
    | cons hfirst _ ih => rw [List.map_cons, List.flatMap_cons, List.flatMap_cons, hfirst, ih]
  cases h with
  | message hdocs hfields honeofs =>
      rw [Item.docLines, Declared.elements, hdocs, List.flatMap_append, hmap hfields, hmap honeofs,
        List.flatMap_cons, List.flatMap_append]
  | oneof hdocs hvariants =>
      rw [Item.docLines, Declared.elements, hdocs, hmap hvariants, List.flatMap_cons]
  | enum hdocs hvariants =>
      rw [Item.docLines, Declared.elements, hdocs, hmap hvariants, List.flatMap_cons]

/-- The comment is in force for an element that something is generated for. -/
def InForce (file : FileDescriptor) (comment : String) : Prop :=
  ∃ d ∈ declaredByFile file, ∃ names ∈ d.elements, file.remarkFor? (placeOf names) = some comment

theorem mem_docsOf_iff {comment? : Option String} {line : String} :
    line ∈ docsOf comment? ↔ ∃ comment, comment? = some comment ∧
      ∃ l ∈ innerLines comment.toList, line = " " ++ String.ofList l := by
  cases comment? with
  | none => simp [docsOf]
  | some comment => simp [docsOf, eq_comm]

/-- The documentation of the module of a message has no end of line in it. -/
theorem moduleDoc_spec {name : String} (h : isIdentifier name) :
    ∃ line, Context.moduleDoc name = " " ++ line ∧ '\n' ∉ line.toList ∧ '\r' ∉ line.toList := by
  have hpart (c : Char) (hc : isIdentifierPart c = false) : c ∉ name.toList := by
    intro hmem
    rw [identifierPart_of_isIdentifier name h c hmem] at hc
    exact Bool.noConfusion hc
  have hstart : " Nested message and enum types in `" =
      " " ++ "Nested message and enum types in `" := by simp
  refine ⟨"Nested message and enum types in `" ++ name ++ "`.", ?_, ?_, ?_⟩
  · unfold Context.moduleDoc
    rw [hstart]
    simp only [String.append_assoc]
  · simp [hpart '\n' (by decide)]
  · simp [hpart '\r' (by decide)]

theorem IsItemsOf.docs_of_module_mem {ctx : Context} {depth : Nat} {s : Sibling} {part : List Item}
    (h : IsItemsOf ctx depth s part) {docs : List String} {name : String} {inner : List Item}
    (hmem : .module docs name inner ∈ part) :
    ∃ m : MessageDescriptor, isIdentifier m.name ∧ docs = [Context.moduleDoc m.name] := by
  cases h with
  | @message place m e =>
      rcases List.mem_cons.mp hmem with heq | hmem
      · simp [Emission.struct] at heq
      · rw [Emission.module] at hmem
        split at hmem
        · simp at hmem
        · obtain ⟨rfl, -, -⟩ := Item.module.inj (List.mem_singleton.mp hmem)
          exact ⟨m, e.isIdentifier_name, rfl⟩
  | oneof | enum => simp at hmem

namespace FileEmission

variable {ctx : Context} {file : FileDescriptor}

theorem docs_of_module (e : FileEmission ctx file) {path docs : List String} {name : String}
    {inner : List Item} (h : Within e.items path (.module docs name inner)) :
    ∃ m : MessageDescriptor, isIdentifier m.name ∧ docs = [Context.moduleDoc m.name] := by
  obtain ⟨above, habove, hmem⟩ := h.exists_moduleOf .root
  rcases e.eq_or_exists_of_moduleOf habove with rfl | ⟨_, _, _, _, _, em, rfl⟩
  · obtain ⟨_, -, part, hpart, hmem⟩ := e.isLevel_items.exists_of_mem_items hmem
    exact hpart.docs_of_module_mem hmem
  · obtain ⟨_, -, part, hpart, hmem⟩ := em.isLevel_inner.exists_of_mem_items hmem
    exact hpart.docs_of_module_mem hmem

end FileEmission

section Documents

variable {file : FileDescriptor} {types : TypeIndex} {mapping : PathMapping} {edition : Edition}

theorem docLines_of_yields {d : Declared} (hd : d ∈ declaredByFile file)
    {entry : List String × Item}
    (h : YieldsInPlace (contextOf file types mapping edition) d entry) :
    entry.2.docLines =
      d.elements.flatMap fun names => docsOf (file.remarkFor? (placeOf names)) := by
  have hR : HoldsInPlace (fun names _ lines => lines = docsOf (file.remarkFor? (placeOf names)))
      file (contextOf file types mapping edition) :=
    fun _ names _ _ _ => docs_contextOf file types mapping edition (placeOf names)
  exact (documentedBy_of_yields hR hd h).docLines_eq

/-- A line of documentation belongs to a comment in force, or to a module. -/
theorem documents_cases (e : FileEmission (contextOf file types mapping edition) file)
    {line : String} (h : Documents e.items line) :
    (∃ comment, InForce file comment ∧ line ∈ docsOf (some comment)) ∨
      ∃ m : MessageDescriptor, isIdentifier m.name ∧ line = Context.moduleDoc m.name := by
  obtain ⟨path, item, hwithin, hline⟩ := h
  by_cases hmodule : item.IsModule
  · obtain ⟨docs, name, inner, rfl⟩ := hmodule
    obtain ⟨m, hm, rfl⟩ := e.docs_of_module hwithin
    exact .inr ⟨m, hm, List.mem_singleton.mp hline⟩
  · have hmem := (mem_contentsOf_iff path item [] e.items).mpr ⟨path, rfl, hwithin, hmodule⟩
    obtain ⟨d, hd, hyields⟩ := Outcome.exists_left_of_forall₂ e.yieldsInPlace_items _ hmem
    rw [docLines_of_yields hd hyields] at hline
    obtain ⟨names, hnames, hline⟩ := List.mem_flatMap.mp hline
    obtain ⟨comment, hcomment, -⟩ := mem_docsOf_iff.mp hline
    rw [hcomment] at hline
    exact .inl ⟨comment, ⟨d, hd, names, hnames, hcomment⟩, hline⟩

theorem documents_of_inForce (e : FileEmission (contextOf file types mapping edition) file)
    {comment line : String} (h : InForce file comment) (hline : line ∈ docsOf (some comment)) :
    Documents e.items line := by
  obtain ⟨d, hd, names, hnames, hcomment⟩ := h
  obtain ⟨⟨path, item⟩, hmem, hyields⟩ := Outcome.exists_right_of_forall₂ e.yieldsInPlace_items d hd
  obtain ⟨_, rfl, hwithin, -⟩ := (mem_contentsOf_iff path item [] e.items).mp hmem
  refine ⟨_, item, hwithin, ?_⟩
  rw [docLines_of_yields hd hyields]
  refine List.mem_flatMap.mpr ⟨names, hnames, ?_⟩
  rw [hcomment]
  exact hline

end Documents

/-- The lines of a comment have no line feed. -/
theorem exists_of_mem_docsOf {comment line : String} (h : line ∈ docsOf (some comment)) :
    ∃ l ∈ innerLines comment.toList, line = " " ++ String.ofList l ∧ '\n' ∉ l := by
  obtain ⟨_, hcomment, l, hl, rfl⟩ := mem_docsOf_iff.mp h
  obtain rfl := Option.some.inj hcomment
  exact ⟨l, hl, rfl, (of_mem_innerLines hl).2⟩

theorem isDocComment_of_documents {file : FileDescriptor} {types : TypeIndex}
    {mapping : PathMapping} {edition : Edition}
    (e : FileEmission (contextOf file types mapping edition) file)
    (h : ∀ comment, InForce file comment → ¬HasStrayReturn comment.toList) {line : String}
    (hline : Documents e.items line) (columns : Nat) :
    IsDocComment columns (docLine columns line) := by
  rcases documents_cases e hline with ⟨comment, hforce, hmem⟩ | ⟨m, hm, rfl⟩
  · obtain ⟨l, hl, rfl, hfeed⟩ := exists_of_mem_docsOf hmem
    rw [isDocComment_docLine_iff, String.toList_ofList]
    exact ⟨hfeed, fun hreturn =>
      h comment hforce ((return_mem_innerLines_iff _).mp ⟨l, hl, hreturn⟩)⟩
  · obtain ⟨text, hdoc, hends⟩ := moduleDoc_spec hm
    rw [hdoc, isDocComment_docLine_iff]
    exact hends

/-- No line of documentation that is generated for a file has a line feed. All of them are legal
comments, in any column, exactly if no comment in force has a carriage return inside of a line. -/
theorem doc_comments_legal_iff (file : FileDescriptor) (types : TypeIndex) (mapping : PathMapping)
    (text : String) (h : fileText file types mapping = .ok text) :
    ∃ items, fileItems file types mapping = .ok items ∧ text = renderFile file.name items ∧
      (∀ line, Documents items line → '\n' ∉ line.toList) ∧
      ((∀ line columns, Documents items line → IsDocComment columns (docLine columns line)) ↔
        ∀ comment, InForce file comment → ¬HasStrayReturn comment.toList) := by
  obtain ⟨edition, e, -, hitems, htext⟩ := fileText_eq_ok h
  refine ⟨e.items, hitems, htext, fun line hline => ?_, fun hlegal comment hforce hstray => ?_,
    fun hreturns line columns hline => isDocComment_of_documents e hreturns hline columns⟩
  · rcases documents_cases e hline with ⟨comment, -, hmem⟩ | ⟨m, hm, rfl⟩
    · obtain ⟨l, -, rfl, hfeed⟩ := exists_of_mem_docsOf hmem
      simpa using hfeed
    · obtain ⟨text, hdoc, hfeed, -⟩ := moduleDoc_spec hm
      rw [hdoc]
      simpa using hfeed
  · obtain ⟨l, hl, hreturn⟩ := (return_mem_innerLines_iff _).mpr hstray
    have hmem : " " ++ String.ofList l ∈ docsOf (some comment) :=
      mem_docsOf_iff.mpr ⟨comment, rfl, l, hl, rfl⟩
    have hcomment := hlegal _ 0 (documents_of_inForce e hforce hmem)
    rw [isDocComment_docLine_iff, String.toList_ofList] at hcomment
    exact hcomment.2 hreturn

/-- A track without fields that has a comment. -/
def remarkedFile (comment : String) : FileDescriptor :=
  { FileDescriptor.blank with
    name? := "track.proto"
    package? := "tracks"
    messages := [⟨{ MessageBody.blank with name? := "Track" }, []⟩]
    sourceInfo? := some [⟨[4, 0], [], some comment, none, []⟩]
    syntaxName? := "proto3" }

/-- Carriage returns at the ends of lines do no harm to the documentation of a track. -/
theorem crlf_remark_legal :
    let file := remarkedFile " A track\r\n of points.\r\n"
    ∃ text items, fileText file (TypeIndex.ofFiles [file]) .empty = .ok text ∧
      text = renderFile "track.proto" items ∧
      ∀ line columns, Documents items line → IsDocComment columns (docLine columns line) := by
  intro file
  have hok : (fileText file (TypeIndex.ofFiles [file]) .empty).isOk = true := by decide +kernel
  obtain ⟨text, htext⟩ := Outcome.exists_of_isOk hok
  obtain ⟨items, -, hrender, -, hlegal⟩ :=
    doc_comments_legal_iff file (TypeIndex.ofFiles [file]) .empty text htext
  refine ⟨text, items, htext, hrender, hlegal.mpr fun comment hforce => ?_⟩
  obtain ⟨_, -, _, -, hcomment⟩ := hforce
  obtain ⟨l, hl, -, hcomment⟩ := FileDescriptor.exists_location_of_lastRemark? hcomment
  obtain rfl := List.mem_singleton.mp hl
  obtain rfl := Option.some.inj hcomment
  rw [← return_mem_innerLines_iff]
  decide +kernel

/-- A carriage return between two sentences goes into the comment of a track. -/
theorem stray_return_in_comment :
    let file := remarkedFile " A track.\rOf points."
    let q : GeneratorRequest := ⟨[file.name], none, [file], none⟩
    Request.validate q = .ok () ∧ (respond .empty q).error? = none ∧
      ∃ items, fileItems file (TypeIndex.ofFiles [file]) .empty = .ok items ∧
        Documents items " A track.\rOf points." ∧
        ¬IsDocComment 0 (docLine 0 " A track.\rOf points.") := by
  intro file q
  have hok : (fileText file (TypeIndex.ofFiles [file]) .empty).isOk = true := by decide +kernel
  obtain ⟨text, htext⟩ := Outcome.exists_of_isOk hok
  obtain ⟨edition, e, -, hitems, -⟩ := fileText_eq_ok htext
  have hforce : InForce file " A track.\rOf points." :=
    ⟨.message [] { MessageBody.blank with name? := "Track" }, .head _, ["Track"], .head _,
      by decide +kernel⟩
  refine ⟨by decide +kernel, by decide +kernel, e.items, hitems,
    documents_of_inForce e hforce (by decide +kernel), ?_⟩
  have hline : " A track.\rOf points." = " " ++ "A track.\rOf points." := by decide +kernel
  rw [hline, isDocComment_docLine_iff]
  decide +kernel

end Generator

end Protogen
