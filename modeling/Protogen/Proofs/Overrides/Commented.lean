import Protogen.Proofs.Descriptor.Comments
import Protogen.Proofs.Overrides.Applied

/-!
# Comments under another name

Comments are kept by the names on the way to their elements, and the name of the message is the
first of these for everything inside of it. Overrides that rename the message so rename the places
of its elements, but no path leads elsewhere than before. If no other element at the top of the
file has the new name, no two places become one, and every element keeps its comment.
-/

namespace Protogen

namespace Descriptor

/-! ### The first name of a place -/

/-- The name in front of the first dot. -/
def headName (place : String) : String := String.ofList (place.toList.takeWhile (· != '.'))

/-- The rest of a place, from its first dot on. -/
def behindHead (place : String) : String := String.ofList (place.toList.dropWhile (· != '.'))

/-- The place with another first name, if the first one is the old one. -/
def renamedPlace (old new place : String) : String :=
  if headName place = old then new ++ behindHead place else place

/-- The names behind the first one, each with the dot in front of it. -/
def dottedNames (names : List String) : List Char := names.flatMap fun name => '.' :: name.toList

theorem toList_placeOf_cons (name : String) (names : List String) :
    (placeOf (name :: names)).toList = name.toList ++ dottedNames names := by
  induction names generalizing name with
  | nil => simp [placeOf, dottedNames]
  | cons next names ih =>
      have hnext : placeOf (name :: next :: names) = placeOf (placeIn name next :: names) := by
        rw [placeOf_cons, placeOf_cons, List.foldl_cons]
      rw [hnext, ih]
      simp [placeIn, dottedNames]

section

variable {name : String} (hdot : '.' ∉ name.toList) (names : List String)

include hdot

theorem headName_placeOf : headName (placeOf (name :: names)) = name := by
  have hname : ∀ c ∈ name.toList, (c != '.') = true := fun c hc =>
    bne_iff_ne.mpr (ne_of_mem_of_not_mem hc hdot)
  rw [headName, toList_placeOf_cons, List.takeWhile_append_of_pos hname]
  cases names <;> simp [dottedNames]

theorem behindHead_placeOf :
    behindHead (placeOf (name :: names)) = String.ofList (dottedNames names) := by
  have hname : ∀ c ∈ name.toList, (c != '.') = true := fun c hc =>
    bne_iff_ne.mpr (ne_of_mem_of_not_mem hc hdot)
  rw [behindHead, toList_placeOf_cons, List.dropWhile_append_of_pos hname]
  cases names <;> simp [dottedNames]

/-- What is renamed is the first name, and the others are kept. -/
theorem renamedPlace_placeOf (old new : String) :
    renamedPlace old new (placeOf (name :: names)) =
      placeOf ((if name = old then new else name) :: names) := by
  rw [renamedPlace, headName_placeOf hdot, behindHead_placeOf hdot]
  split
  · refine String.toList_inj.mp ?_
    rw [toList_placeOf_cons]
    simp
  · rfl

end

theorem placeAt?_eq_map_renamedPlace {old : String} (hdot : '.' ∉ old.toList) (new : String)
    (m : MessageDescriptor) (path : List Int32) :
    m.placeAt? new path = (m.placeAt? old path).map (renamedPlace old new) := by
  have hrenamed (names : List String) :
      renamedPlace old new (names.foldl placeIn old) = names.foldl placeIn new := by
    rw [← placeOf_cons, renamedPlace_placeOf hdot, if_pos rfl, placeOf_cons]
  refine Option.ext fun found => ?_
  rw [Option.map_eq_some_iff, MessageDescriptor.placeAt?_eq_some_iff]
  simp only [MessageDescriptor.placeAt?_eq_some_iff, Subject.PlacedAt]
  constructor
  · rintro ⟨names, s, hleads, rfl⟩
    exact ⟨_, ⟨names, s, hleads, rfl⟩, hrenamed names⟩
  · rintro ⟨_, ⟨names, s, hleads, rfl⟩, rfl⟩
    exact ⟨names, s, hleads, hrenamed names⟩

theorem EnumDescriptor.map_renamedPlace_placeAt? {e : EnumDescriptor} (hdot : '.' ∉ e.name.toList)
    {old : String} (hne : e.name ≠ old) (new : String) (path : List Int32) :
    (e.placeAt? e.name path).map (renamedPlace old new) = e.placeAt? e.name path := by
  refine (Option.map_congr fun found hfound => ?_).trans Option.map_id'
  obtain ⟨names, s, -, rfl⟩ := (e.placeAt?_eq_some_iff _ _ _).mp hfound
  rw [← placeOf_cons, renamedPlace_placeOf hdot, if_neg hne]

/-! ### Places of a file with one message -/

theorem mem_of_elementAt? {α : Type} {xs : List α} {index : Int32} {x : α}
    (h : elementAt? xs index = some x) : x ∈ xs := by
  obtain ⟨i, -, hget⟩ := (elementAt?_eq_some_iff _ _ _).mp h
  exact List.mem_of_getElem? hget

namespace FileDescriptor

variable {file : FileDescriptor} {m : MessageDescriptor}

theorem map_name_parts (file : FileDescriptor) :
    ((Subject.file file).parts.map fun p => p.subject.name) =
      file.messages.map MessageDescriptor.name ++ file.enums.map EnumDescriptor.name := by
  have hsubjects : (Subject.file file).parts.map Part.subject =
      file.messages.map Subject.message ++ file.enums.map Subject.enum := by
    simp [Subject.parts]
  have hnames := congrArg (List.map Subject.name) hsubjects
  rw [List.map_map, List.map_append, List.map_map, List.map_map] at hnames
  exact hnames

/-- The names of the only message and of the enums beside it. -/
theorem SiblingsApart.name_message (hapart : file.SiblingsApart) (hm : file.messages = [m]) :
    '.' ∉ m.name.toList ∧ ∀ e ∈ file.enums, '.' ∉ e.name.toList ∧ e.name ≠ m.name := by
  obtain ⟨⟨hnodup, hdot⟩, -⟩ := Subject.apartInside_iff.mp hapart
  have hdots : ∀ name ∈ file.messages.map MessageDescriptor.name ++
      file.enums.map EnumDescriptor.name, '.' ∉ name.toList := by
    rw [← map_name_parts]
    exact List.forall_mem_map.mpr hdot
  rw [map_name_parts, hm, List.map_singleton, List.singleton_append, List.nodup_cons] at hnodup
  rw [hm, List.map_singleton, List.singleton_append, List.forall_mem_cons] at hdots
  refine ⟨hdots.1, fun e he => ⟨hdots.2 _ (List.mem_map_of_mem he), fun heq => ?_⟩⟩
  exact hnodup.1 (heq ▸ List.mem_map_of_mem he)

/-- A place begins with the name of the message if its element lies in it, and else with the
name of an enum. -/
theorem SiblingsApart.exists_names (hapart : file.SiblingsApart) (hm : file.messages = [m])
    {path : List Int32} {place : String} (hplace : file.placeAt? path = some place) :
    ∃ name names, place = placeOf (name :: names) ∧ (∀ n ∈ name :: names, '.' ∉ n.toList) ∧
      (path.head? = some 4 ∧ name = m.name ∨
        path.head? = some 5 ∧ ∃ e ∈ file.enums, name = e.name) := by
  obtain ⟨names, s, hleads, hne, rfl⟩ := (file.placeAt?_eq_some_iff _ _).mp hplace
  have hdots := hleads.no_dot hapart
  match path with
  | [] =>
      cases hleads
      exact absurd rfl hne
  | [_] => exact absurd hleads Subject.not_leads_singleton
  | list :: index :: rest =>
      obtain ⟨p, hp, rfl, -, inner, rfl, -⟩ := Subject.leads_cons_iff.mp hleads
      refine ⟨_, inner, rfl, hdots, ?_⟩
      rw [Subject.parts, hm] at hp
      rcases List.mem_append.mp hp with hp | hp
      · obtain ⟨n, hn, hlist, hsubject⟩ := mem_listed_iff.mp hp
        obtain rfl := List.mem_singleton.mp (List.mem_of_getElem? hn)
        exact .inl ⟨congrArg some hlist, congrArg Subject.name hsubject⟩
      · obtain ⟨e, he, hlist, hsubject⟩ := mem_listed_iff.mp hp
        exact .inr ⟨congrArg some hlist, e, List.mem_of_getElem? he,
          congrArg Subject.name hsubject⟩

end FileDescriptor

end Descriptor

namespace Overrides

open Descriptor

section

variable {o : Overrides} {file : FileDescriptor} {m : MessageDescriptor}

theorem placeAt?_onMessage (place : String) (path : List Int32) :
    (o.onMessage m).placeAt? place path = m.placeAt? place path := by
  rcases o with ⟨package?, _ | name⟩
  · rfl
  · match path with
    | [] | [_] | _ :: _ :: _ => rfl

theorem elementAt?_singleton_onMessage (index : Int32) :
    elementAt? [o.onMessage m] index = (elementAt? [m] index).map o.onMessage := by
  rw [elementAt?, elementAt?, ← List.map_singleton, List.getElem?_map]
  split <;> rfl

/-- Every path leads where it led before, to a place that may have another first name. -/
theorem placeAt?_applied (hm : file.messages = [m]) (hapart : file.SiblingsApart)
    (path : List Int32) :
    (o.applied file m).placeAt? path =
      (file.placeAt? path).map (renamedPlace m.name (o.nameOn m)) := by
  obtain ⟨hdot, henums⟩ := hapart.name_message hm
  match path with
  | [] | [_] => rfl
  | list :: index :: rest =>
      rw [FileDescriptor.placeAt?, FileDescriptor.placeAt?, messages_applied, enums_applied, hm,
        elementAt?_singleton_onMessage]
      split
      · cases hn : elementAt? [m] index with
        | none => rfl
        | some n =>
            obtain rfl := List.mem_singleton.mp (mem_of_elementAt? hn)
            rw [Option.map_some, Option.bind_some, Option.bind_some, placeAt?_onMessage,
              name_onMessage]
            exact placeAt?_eq_map_renamedPlace hdot _ n rest
      split
      · cases he : elementAt? file.enums index with
        | none => rfl
        | some e =>
            obtain ⟨hdot, hne⟩ := henums e (mem_of_elementAt? he)
            exact (EnumDescriptor.map_renamedPlace_placeAt? hdot hne _ rest).symm
      · rfl

end

/-- The new name of the message is one that no place needs. -/
def IsFreeName (file : FileDescriptor) (name : String) : Prop :=
  '.' ∉ name.toList ∧ ∀ e ∈ file.enums, e.name ≠ name

/-- The comments of the file are still there after the message got another name, each at its
element. -/
structure KeepsComments (file rewritten : FileDescriptor) (old new : String) : Prop where
  /-- Every path leads where it led before. -/
  placeAt?_eq : ∀ path, rewritten.placeAt? path = (file.placeAt? path).map (renamedPlace old new)
  /-- The places that are renamed are those in the message. -/
  headName_eq_iff : ∀ path place, file.placeAt? path = some place →
    (headName place = old ↔ path.head? = some 4)
  /-- Different places stay different. -/
  eq_of_renamed_eq : ∀ path path' place place', file.placeAt? path = some place →
    file.placeAt? path' = some place' →
      renamedPlace old new place = renamedPlace old new place' → place = place'
  /-- The comments are those of the file, at the renamed places. -/
  find?_eq_some_iff : ∀ place comment, (Comments.ofFile rewritten).find? place = some comment ↔
    ∃ before, (Comments.ofFile file).find? before = some comment ∧
      place = renamedPlace old new before

theorem isFreeName_nameOn {o : Overrides} {file : FileDescriptor} {m : MessageDescriptor}
    (hm : file.messages = [m]) (hapart : file.SiblingsApart)
    (hfree : ∀ name, o.messageName? = some name → IsFreeName file name) :
    IsFreeName file (o.nameOn m) := by
  rw [nameOn]
  cases hname : o.messageName? with
  | none =>
      obtain ⟨hdot, henums⟩ := hapart.name_message hm
      exact ⟨hdot, fun e he => (henums e he).2⟩
  | some name => exact hfree name hname

theorem eq_of_renamedPlace_eq {file : FileDescriptor} {m : MessageDescriptor}
    (hm : file.messages = [m]) (hapart : file.SiblingsApart) {new : String}
    (hnew : IsFreeName file new) {path path' : List Int32} {place place' : String}
    (hplace : file.placeAt? path = some place) (hplace' : file.placeAt? path' = some place')
    (h : renamedPlace m.name new place = renamedPlace m.name new place') : place = place' := by
  obtain ⟨name, names, rfl, hdots, hhead⟩ := hapart.exists_names hm hplace
  obtain ⟨name', names', rfl, hdots', hhead'⟩ := hapart.exists_names hm hplace'
  obtain ⟨hdot, hnames⟩ := List.forall_mem_cons.mp hdots
  obtain ⟨hdot', hnames'⟩ := List.forall_mem_cons.mp hdots'
  have hrenamed {n : String} (hn : '.' ∉ n.toList) :
      '.' ∉ (if n = m.name then new else n).toList := by
    split
    · exact hnew.1
    · exact hn
  rw [renamedPlace_placeOf hdot, renamedPlace_placeOf hdot'] at h
  obtain ⟨hname, rfl⟩ := List.cons.inj (eq_of_placeOf_eq (List.cons_ne_nil _ _)
    (List.cons_ne_nil _ _) (List.forall_mem_cons.mpr ⟨hrenamed hdot, hnames⟩)
    (List.forall_mem_cons.mpr ⟨hrenamed hdot', hnames'⟩) h)
  have henum {e : EnumDescriptor} (he : e ∈ file.enums) : e.name ≠ m.name :=
    ((hapart.name_message hm).2 e he).2
  -- only the message is renamed, and no enum has its new name
  rcases hhead with ⟨-, rfl⟩ | ⟨-, e, he, rfl⟩ <;>
    rcases hhead' with ⟨-, rfl⟩ | ⟨-, e', he', rfl⟩
  · rfl
  · rw [if_pos rfl, if_neg (henum he')] at hname
    exact absurd hname.symm (hnew.2 e' he')
  · rw [if_neg (henum he), if_pos rfl] at hname
    exact absurd hname (hnew.2 e he)
  · rw [if_neg (henum he), if_neg (henum he')] at hname
    rw [hname]

theorem exists_path_of_find? {file : FileDescriptor} {place comment : String}
    (h : (Comments.ofFile file).find? place = some comment) :
    ∃ path, file.placeAt? path = some place := by
  rw [Comments.find?_ofFile] at h
  obtain ⟨c, hremark, -⟩ := Option.map_eq_some_iff.mp h
  obtain ⟨l, -, hplace, -⟩ := FileDescriptor.exists_location_of_lastRemark? hremark
  exact ⟨l.path, beq_iff_eq.mp hplace⟩

theorem locations_applied (o : Overrides) (file : FileDescriptor) (m : MessageDescriptor) :
    (o.applied file m).locations = file.locations := by
  rcases o with ⟨_ | package, name?⟩ <;> rfl

/-- A place has the same comment under its new name. -/
theorem find?_renamedPlace (o : Overrides) {file : FileDescriptor} {m : MessageDescriptor}
    (hm : file.messages = [m]) (hapart : file.SiblingsApart)
    (hnew : IsFreeName file (o.nameOn m)) {path : List Int32} {place : String}
    (hplace : file.placeAt? path = some place) :
    (Comments.ofFile (o.applied file m)).find? (renamedPlace m.name (o.nameOn m) place) =
      (Comments.ofFile file).find? place := by
  rw [Comments.find?_ofFile, Comments.find?_ofFile, FileDescriptor.remarkFor?,
    FileDescriptor.remarkFor?, FileDescriptor.lastRemark?, FileDescriptor.lastRemark?,
    locations_applied]
  congr 4
  funext l
  rw [placeAt?_applied hm hapart]
  cases hfound : file.placeAt? l.path with
  | none => rfl
  | some found =>
      rw [Option.map_some, Bool.eq_iff_iff, beq_iff_eq, beq_iff_eq, Option.some.injEq,
        Option.some.injEq]
      exact ⟨eq_of_renamedPlace_eq hm hapart hnew hfound hplace, congrArg _⟩

theorem keepsComments_applied (o : Overrides) {file : FileDescriptor} {m : MessageDescriptor}
    (hm : file.messages = [m]) (hapart : file.SiblingsApart)
    (hnew : IsFreeName file (o.nameOn m)) :
    KeepsComments file (o.applied file m) m.name (o.nameOn m) where
  placeAt?_eq := placeAt?_applied hm hapart
  headName_eq_iff path place hplace := by
    obtain ⟨name, names, rfl, hdots, hhead⟩ := hapart.exists_names hm hplace
    rw [headName_placeOf (hdots name List.mem_cons_self)]
    rcases hhead with ⟨hhead, rfl⟩ | ⟨hhead, e, he, rfl⟩
    · exact iff_of_true rfl hhead
    · refine iff_of_false ((hapart.name_message hm).2 e he).2 ?_
      rw [hhead]
      decide
  eq_of_renamed_eq _ _ _ _ := eq_of_renamedPlace_eq hm hapart hnew
  find?_eq_some_iff place comment := by
    constructor
    · intro hcomment
      obtain ⟨path, hplace⟩ := exists_path_of_find? hcomment
      rw [placeAt?_applied hm hapart] at hplace
      obtain ⟨before, hbefore, rfl⟩ := Option.map_eq_some_iff.mp hplace
      rw [find?_renamedPlace o hm hapart hnew hbefore] at hcomment
      exact ⟨before, hcomment, rfl⟩
    · rintro ⟨before, hcomment, rfl⟩
      obtain ⟨path, hbefore⟩ := exists_path_of_find? hcomment
      rw [find?_renamedPlace o hm hapart hnew hbefore]
      exact hcomment

/-- Where siblings are apart, a message gets another name and keeps its comments, if the name has
no dots and no enum beside the message has it. A message without a name is refused. -/
theorem comments_follow_message (o : Overrides) {file : FileDescriptor} {m : MessageDescriptor}
    (hm : file.messages = [m]) (hapart : file.SiblingsApart)
    (hfree : ∀ name, o.messageName? = some name → IsFreeName file name) :
    (o.nameOn m = "" → o.apply file = .error .unnamedMessage) ∧
      (o.nameOn m ≠ "" → ∃ rewritten, o.apply file = .ok rewritten ∧
        KeepsComments file rewritten m.name (o.nameOn m)) := by
  refine ⟨fun hempty => ?_, fun hname => ?_⟩
  · have hrefused : (o.onMessage m).name.isEmpty := by simpa using hempty
    simp only [apply, hm, if_pos hrefused]
  · exact ⟨_, o.apply_of_messages hm hname,
      o.keepsComments_applied hm hapart (isFreeName_nameOn hm hapart hfree)⟩

/-- A track of points, with an enum whose name begins like its own. -/
def commentedTrack : FileDescriptor :=
  let before (path : List Int32) (comment : String) : Location := ⟨path, [], some comment, none, []⟩
  let track : MessageBody :=
    { MessageBody.blank with
      name? := "Track"
      fields := [{ FieldDescriptor.blank with name? := "points" }] }
  { FileDescriptor.blank with
    messages := [⟨track, []⟩]
    enums := [⟨some "TrackKind", [], none, [], []⟩]
    sourceInfo? := some [before [4, 0, 2, 0] " All of them.", before [5, 0] " Of tracks."] }

/-- The field of a track that becomes a disc keeps its comment, and so does the enum. -/
theorem track_comments_kept :
    let o : Overrides := ⟨some "acme", some "Disc"⟩
    commentedTrack.SiblingsApart ∧ IsFreeName commentedTrack "Disc" ∧
      ∃ rewritten, o.apply commentedTrack = .ok rewritten ∧
        KeepsComments commentedTrack rewritten "Track" "Disc" ∧
        (Comments.ofFile rewritten).find? "Disc.points" = some "All of them." ∧
        (Comments.ofFile rewritten).find? "TrackKind" = some "Of tracks." := by
  intro o
  have hapart : commentedTrack.SiblingsApart := by
    refine Subject.apartInside_file_iff.mpr ⟨by decide, fun m hm => ?_, by decide⟩
    obtain rfl := List.mem_singleton.mp hm
    exact Subject.apartInside_message_iff.mpr ⟨by decide, nofun, nofun⟩
  have hfree : IsFreeName commentedTrack "Disc" := ⟨by decide, by decide⟩
  obtain ⟨rewritten, happly, hkeeps⟩ :=
    (comments_follow_message o rfl hapart fun name hname => Option.some.inj hname ▸ hfree).2
      (by decide)
  exact ⟨hapart, hfree, rewritten, happly, hkeeps,
    (hkeeps.find?_eq_some_iff _ _).mpr ⟨"Track.points", by decide +kernel, by decide +kernel⟩,
    (hkeeps.find?_eq_some_iff _ _).mpr ⟨"TrackKind", by decide +kernel, by decide +kernel⟩⟩

end Overrides

end Protogen
