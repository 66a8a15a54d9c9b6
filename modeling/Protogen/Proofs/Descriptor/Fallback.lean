import Protogen.Proofs.Descriptor.Comments

/-!
# Comments before an element and after it

A location may have a comment before its element and another one after it. The one after it is
there to step in for the one before it. It does so where there is none before it, but not where
the one before it is blank: then nothing is kept at all.
-/

namespace Protogen

namespace Descriptor

open Text

namespace Location

/-- The comment that says something: the one before the element, or else the one after it. -/
def telling? (l : Location) : Option String :=
  (l.leadingComments?.filter fun c => !isBlankText c).or
    (l.trailingComments?.filter fun c => !isBlankText c)

/-- There is a comment before the element, but it is blank. -/
def HasBlankLead (l : Location) : Prop := ∃ c, l.leadingComments? = some c ∧ isBlankText c

theorem remark?_eq_telling? {l : Location} (h : ¬l.HasBlankLead) : l.remark? = l.telling? := by
  rw [remark?, comment?, telling?]
  cases hlead : l.leadingComments? with
  | none => rfl
  | some c =>
      have hblank : isBlankText c = false := by
        rw [← Bool.not_eq_true]
        exact fun hblank => h ⟨c, hlead, hblank⟩
      simp [Option.filter_some, hblank]

theorem HasBlankLead.remark?_eq_none {l : Location} (h : l.HasBlankLead) : l.remark? = none := by
  obtain ⟨c, hlead, hblank⟩ := h
  rw [remark?, comment?, hlead]
  simp [Option.filter_some, hblank]

end Location

namespace FileDescriptor

/-- No other location of the file has the path of this one. -/
def IsOnlyLocation (file : FileDescriptor) (l : Location) : Prop :=
  file.locations.filter (fun other => other.path == l.path) = [l]

instance (file : FileDescriptor) (l : Location) : Decidable (file.IsOnlyLocation l) :=
  inferInstanceAs (Decidable (_ = [l]))

/-- No location of the file leads to the place by another path. -/
def IsOwnPlace (file : FileDescriptor) (path : List Int32) (place : String) : Prop :=
  ∀ other ∈ file.locations, file.placeAt? other.path = some place → other.path = path

/-- Where siblings are apart, the place of an element is its own. -/
theorem SiblingsApart.isOwnPlace {file : FileDescriptor} (hapart : file.SiblingsApart)
    {path : List Int32} {place : String} (hplace : file.placeAt? path = some place) :
    file.IsOwnPlace path place := by
  obtain ⟨names, s, hleads, hne, rfl⟩ := (file.placeAt?_eq_some_iff _ _).mp hplace
  intro other _ hother
  refine List.map_injective_iff.mpr (fun _ _ => Int32.toInt_inj.mp) ?_
  exact (hapart.placeAt?_eq_placeOf_iff hleads hne other.path).mp hother

/-- The only location of an element has the only comment for it. -/
theorem IsOnlyLocation.remarkFor?_eq {file : FileDescriptor} {l : Location} {place : String}
    (h : file.IsOnlyLocation l) (hplace : file.placeAt? l.path = some place)
    (hown : file.IsOwnPlace l.path place) : file.remarkFor? place = l.remark? := by
  have hfilter : (file.locations.filter fun other => file.placeAt? other.path == some place) =
      file.locations.filter fun other => other.path == l.path := by
    refine List.filter_congr fun other hother => ?_
    rw [Bool.eq_iff_iff, beq_iff_eq, beq_iff_eq]
    exact ⟨hown other hother, fun hpath => hpath ▸ hplace⟩
  rw [remarkFor?, lastRemark?, hfilter, h, List.filterMap_cons]
  cases l.remark? <;> rfl

end FileDescriptor

/-- If a location is the only one of its element and has a comment that says something, then this
comment is kept for the element, unless the comment before the element is blank. If it is blank
nothing is kept, even if there is a comment after the element. -/
theorem telling_comment_kept_iff {file : FileDescriptor} {l : Location} {place : String}
    (hplace : file.placeAt? l.path = some place) (honly : file.IsOnlyLocation l)
    (hown : file.IsOwnPlace l.path place) (htelling : l.telling?.isSome) :
    ((Comments.ofFile file).find? place = l.telling?.map trimComment ↔ ¬l.HasBlankLead) ∧
      (l.HasBlankLead → (Comments.ofFile file).find? place = none) := by
  have hfind : (Comments.ofFile file).find? place = l.remark?.map trimComment := by
    rw [Comments.find?_ofFile, honly.remarkFor?_eq hplace hown]
  have hlost (hblank : l.HasBlankLead) : (Comments.ofFile file).find? place = none := by
    rw [hfind, hblank.remark?_eq_none, Option.map_none]
  refine ⟨⟨fun hkept hblank => ?_, fun hblank => ?_⟩, hlost⟩
  · obtain ⟨c, hc⟩ := Option.isSome_iff_exists.mp htelling
    rw [hlost hblank, hc] at hkept
    exact nomatch hkept
  · rw [hfind, Location.remark?_eq_telling? hblank]

/-- A track of points, with one location, that of its field. -/
def pointsLocation (before? after? : Option String) : Location :=
  ⟨[4, 0, 2, 0], [], before?, after?, []⟩

def pointsFile (before? after? : Option String) : FileDescriptor :=
  let track : MessageBody :=
    { MessageBody.blank with
      name? := "Track"
      fields := [{ FieldDescriptor.blank with name? := "points" }] }
  { FileDescriptor.blank with
    messages := [⟨track, []⟩]
    sourceInfo? := some [pointsLocation before? after?] }

theorem siblingsApart_pointsFile (before? after? : Option String) :
    (pointsFile before? after?).SiblingsApart := by
  have hfile : (Subject.file (pointsFile none none)).PartsApart := by decide
  refine Subject.apartInside_file_iff.mpr ⟨⟨hfile.nodup, hfile.no_dot⟩, fun m hm => ?_, nofun⟩
  obtain rfl := List.mem_singleton.mp hm
  exact Subject.apartInside_message_iff.mpr ⟨by decide, nofun, nofun⟩

/-- The comment after a field is kept if there is none before it. -/
theorem comment_after_points_kept :
    let file := pointsFile none (some " All of them.\n")
    let l := pointsLocation none (some " All of them.\n")
    file.placeAt? l.path = some "Track.points" ∧ file.IsOnlyLocation l ∧
      file.IsOwnPlace l.path "Track.points" ∧ l.telling?.isSome ∧
        (Comments.ofFile file).find? "Track.points" = some "All of them." := by
  intro file l
  have hplace : file.placeAt? l.path = some "Track.points" := by decide
  have honly : file.IsOnlyLocation l := by decide
  have hown := (siblingsApart_pointsFile none (some " All of them.\n")).isOwnPlace hplace
  have htelling : l.telling?.isSome := by decide
  have hlead : ¬l.HasBlankLead := fun ⟨_, hlead, _⟩ => nomatch hlead
  have hkept := (telling_comment_kept_iff hplace honly hown htelling).1.mpr hlead
  exact ⟨hplace, honly, hown, htelling, hkept.trans (by decide +kernel)⟩

/-- A blank comment before a field keeps the one after it away. -/
theorem blank_comment_before_points :
    let file := pointsFile (some " \n") (some " All of them.\n")
    let l := pointsLocation (some " \n") (some " All of them.\n")
    file.SiblingsApart ∧ file.placeAt? l.path = some "Track.points" ∧ file.IsOnlyLocation l ∧
      l.telling?.map trimComment = some "All of them." ∧
        (Comments.ofFile file).find? "Track.points" = none :=
  ⟨siblingsApart_pointsFile _ _, by decide, by decide, by decide +kernel, by decide +kernel⟩

end Descriptor

end Protogen
