import Protogen.Proofs.Descriptor.Places
import Protogen.Proofs.Text.Lines

/-!
# The comment in force at a place

Of the comments of a file those that are blank do not count. The comment that is kept for a
place is the last one of a location whose path leads there. Where siblings are apart, only
one path leads to the place of an element, so the comment in force is found by comparing
numbers, without a look at names.
-/

namespace Protogen

namespace Descriptor

open Text

namespace Location

/-- The comment of the location, unless it is blank. -/
def remark? (l : Location) : Option String := l.comment?.filter fun c => !isBlankText c

def numbers (l : Location) : List Int := l.path.map Int32.toInt

end Location

namespace FileDescriptor

def locations (file : FileDescriptor) : List Location := file.sourceInfo?.getD []

/-- The last comment that counts of the locations with a property. -/
def lastRemark? (file : FileDescriptor) (p : Location → Bool) : Option String :=
  ((file.locations.filter p).filterMap Location.remark?).getLast?

/-- The comment in force at a place. -/
def remarkFor? (file : FileDescriptor) (place : String) : Option String :=
  file.lastRemark? fun l => file.placeAt? l.path == some place

/-- The comment in force at the end of a path. -/
def remarkAt? (file : FileDescriptor) (path : List Int) : Option String :=
  file.lastRemark? fun l => l.numbers == path

end FileDescriptor

theorem isEmpty_trimComment (comment : String) :
    (trimComment comment).isEmpty = isBlankText comment := isEmpty_trim_intercalate comment

/-- The lines of a comment: it is divided at the line feeds, and every part is trimmed.
Empty parts at the ends are left out. -/
theorem lines_trimComment (comment : String) :
    lines (trimComment comment) = (innerLines comment.toList).map String.ofList :=
  lines_trim_intercalate comment

namespace Comments

theorem contribution?_eq (file : FileDescriptor) (l : Location) :
    contribution? file l = (file.placeAt? l.path).bind fun place =>
      l.remark?.map fun comment => (place, trimComment comment) := by
  rw [contribution?, Location.remark?]
  cases l.comment? with
  | none => cases file.placeAt? l.path <;> rfl
  | some comment =>
      cases file.placeAt? l.path with
      | none => rfl
      | some place =>
          cases hblank : isBlankText comment <;>
            simp [isEmpty_trimComment, Option.filter_some, hblank]

/-- Of several comments for one place the last one that counts is kept, trimmed. -/
theorem find?_ofFile (file : FileDescriptor) (place : String) :
    (ofFile file).find? place = (file.remarkFor? place).map trimComment := by
  have hone (l : Location) :
      ((contribution? file l).filter fun e => e.1 == place).map Prod.snd =
        if file.placeAt? l.path == some place then l.remark?.map trimComment else none := by
    rw [contribution?_eq]
    cases file.placeAt? l.path with
    | none => rfl
    | some found =>
        cases l.remark? with
        | none => simp
        | some comment => by_cases heq : found = place <;> simp [Option.filter_some, heq]
  rw [find?, ofFile, FileDescriptor.remarkFor?, FileDescriptor.lastRemark?, ← List.getLast?_map,
    ← List.getLast?_map, List.filter_filterMap, List.map_filterMap, List.map_filterMap,
    List.filterMap_filter]
  exact congrArg List.getLast? (List.filterMap_congr fun l _ => hone l)

end Comments

namespace FileDescriptor

/-- A comment in force is that of a location. -/
theorem exists_location_of_lastRemark? {file : FileDescriptor} {p : Location → Bool}
    {comment : String} (h : file.lastRemark? p = some comment) :
    ∃ l ∈ file.locations, p l ∧ l.comment? = some comment := by
  obtain ⟨l, hl, hremark⟩ := List.mem_filterMap.mp (List.mem_of_getLast? h)
  obtain ⟨hmem, hp⟩ := List.mem_filter.mp hl
  exact ⟨l, hmem, hp, Option.eq_some_of_filter_eq_some hremark⟩

/-- Where siblings are apart, the comment in force at the place of an element is the one at
its path. -/
theorem SiblingsApart.remarkFor?_placeOf {file : FileDescriptor} (hapart : file.SiblingsApart)
    {path : List Int} {names : List String} {s : Subject}
    (hleads : Subject.Leads (.file file) path names s) (hne : names ≠ []) :
    file.remarkFor? (placeOf names) = file.remarkAt? path := by
  rw [remarkFor?, remarkAt?]
  congr 1
  funext l
  rw [Bool.eq_iff_iff, beq_iff_eq, beq_iff_eq]
  exact hapart.placeAt?_eq_placeOf_iff hleads hne l.path

end FileDescriptor

end Descriptor

end Protogen
