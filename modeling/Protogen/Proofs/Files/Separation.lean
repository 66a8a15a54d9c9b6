import Protogen.Proofs.Files.Confinement

/-!
# Files under different names

A file is written at the location that its path leads to. Below a directory that holds no links
a location has the names of the path, so different names lead to different files. A file that was
written there stays as it is, whatever is written below the directory under other names, and
whether that succeeds or not.
-/

namespace Protogen

namespace Files

/-- Every piece of the name is a component. -/
def IsPlainName (name : String) : Prop :=
  ∀ piece ∈ pieces name, piece ≠ "" ∧ piece ≠ "." ∧ piece ≠ ".."

theorem ofPiece?_of_plain {piece : String} (h : piece ≠ "" ∧ piece ≠ "." ∧ piece ≠ "..") :
    Component.ofPiece? piece = some (.normal piece) := by
  rw [Component.ofPiece?, if_neg (by simp [h]), if_neg h.2.2]

theorem IsPlainName.isAbsolute {name : String} (h : IsPlainName name) :
    isAbsolute name = false := by
  rw [Bool.eq_false_iff, ne_eq, isAbsolute_iff]
  rintro ⟨rest, -, hpieces⟩
  exact (h "" (by simp [hpieces])).1 rfl

theorem IsPlainName.onlySlashes {name : String} (h : IsPlainName name) :
    onlySlashes (pieces name) = false := by
  obtain ⟨piece, rest, hpieces⟩ := List.exists_cons_of_ne_nil (pieces_ne_nil name)
  simp [Files.onlySlashes, hpieces, (h piece (by simp [hpieces])).1]

/-- Below a base the pieces of a plain name are components of their own. -/
theorem IsPlainName.components_join {name : String} (h : IsPlainName name) (base : String) :
    components (join base name) = components base ++ (pieces name).map .normal := by
  have hpieces : (pieces name).filterMap Component.ofPiece? = (pieces name).map .normal := by
    rw [← List.filterMap_eq_map]
    exact List.filterMap_congr fun piece hpiece => ofPiece?_of_plain (h piece hpiece)
  by_cases hbase : base = ""
  · obtain ⟨piece, rest, hname⟩ := List.exists_cons_of_ne_nil (pieces_ne_nil name)
    obtain ⟨hempty, hdot, -⟩ := h piece (by simp [hname])
    have hfront : frontOf (pieces name) = [] := by simp [hname, frontOf, hempty, hdot]
    have hjoin : join "" name = name := by simp [join, h.isAbsolute]
    have hnone : components "" = [] := rfl
    rw [hbase, hjoin, hnone, components_eq, hfront, hpieces, List.nil_append]
  · rw [Files.components_join hbase h.isAbsolute, hpieces]

theorem isAbsolute_join (base : String) {path : String} (hpath : isAbsolute path = false) :
    isAbsolute (join base path) = isAbsolute base := by
  by_cases hempty : base = ""
  · subst hempty
    simpa [join, isAbsolute] using hpath
  · obtain ⟨c, cs, hbase⟩ := List.exists_cons_of_ne_nil (mt String.toList_eq_nil_iff.mp hempty)
    rw [join, if_neg (by simp [hpath])]
    split <;> simp [isAbsolute, hbase]

/-- The location of what is there, or of what could be made there. -/
def Place.location? : Place → Option Location
  | .existing location => some location
  | .vacant directory name => some (directory ++ [name])
  | .slashed => none

def Entry.isLink : Entry → Bool
  | .link _ => true
  | _ => false

namespace Tree

theorem start_join (here : Location) (base : String) {path : String}
    (hpath : isAbsolute path = false) : start here (join base path) = start here base := by
  rw [start, start, isAbsolute_join base hpath]

/-- There is no link below the directory. -/
def HoldsNoLinks (tree : Tree) (directory : Location) : Prop :=
  ∀ names target, tree.get? (directory ++ names) ≠ some (.link target)

theorem HoldsNoLinks.inside {tree : Tree} {directory : Location} (h : tree.HoldsNoLinks directory)
    (name : String) : tree.HoldsNoLinks (directory ++ [name]) := by
  intro names target
  rw [List.append_assoc]
  exact h ([name] ++ names) target

theorem holdsNoLinks_of_entries {tree : Tree} (h : ∀ e ∈ tree.entries, e.2.isLink = false)
    (directory : Location) : tree.HoldsNoLinks directory := by
  intro names target hlink
  by_cases hroot : directory ++ names = []
  · simp [Tree.get?, hroot] at hlink
  · rw [get?_eq_lookup _ hroot] at hlink
    obtain ⟨before, after, hentries, -⟩ := List.lookup_eq_some_iff.mp hlink
    have hentry := h (directory ++ names, .link target) (by simp [hentries])
    simp [Entry.isLink] at hentry

/-- Without links the names that are looked up are those of the location. -/
theorem location?_of_locateWith {tree : Tree}
    {follow : Location → List String → Except OsError Place} {here : Location}
    {names : List String} {place : Place} (hlinks : tree.HoldsNoLinks here)
    (hnames : ∀ name ∈ names, name ≠ "" ∧ name ≠ "." ∧ name ≠ "..")
    (h : tree.locateWith follow here names = .ok place) :
    place.location? = some (here ++ names) := by
  induction names generalizing here with
  | nil =>
      obtain rfl := Except.ok.inj h
      simp [Place.location?]
  | cons name names ih =>
      obtain ⟨hname, hnames⟩ := List.forall_mem_cons.mp hnames
      have hmore : ¬(!names.isEmpty && onlySlashes names) = true := by
        cases names with
        | nil => simp
        | cons next names => simp [onlySlashes, (hnames next List.mem_cons_self).1]
      rw [locateWith_normal _ _ _ _ (ofPiece?_of_plain hname), if_neg hmore] at h
      split at h
      · cases h
      · rcases hentry : tree.get? (here ++ [name]) with _ | ⟨mode⟩ | ⟨mode, content⟩ | ⟨target⟩ <;>
          simp only [hentry] at h
        · split at h
          · rename_i hlast
            obtain rfl := Except.ok.inj h
            simp [Place.location?, List.isEmpty_iff.mp hlast]
          · cases h
        · rw [ih (hlinks.inside name) hnames h, List.append_assoc, List.singleton_append]
        · split at h
          · rename_i hlast
            obtain rfl := Except.ok.inj h
            simp [Place.location?, List.isEmpty_iff.mp hlast]
          · cases h
        · exact absurd hentry (hlinks [name] target)

/-- Slashes at the end of a path do not matter for the directory that it leads to. -/
theorem directoryOf_pieces_iff (tree : Tree) (here directory : Location) {base : String}
    {above : List String} (habove : pieces base = above ∨ pieces base = above ++ [""]) :
    tree.directoryOf here (pieces base) = .ok directory ↔
      tree.locateFrom linkLimit here (above ++ ["."]) = .ok (.existing directory) := by
  rw [directoryOf_eq_ok_iff]
  rcases habove with habove | habove
  · rw [habove]
  · have hslash : tree.locateFrom linkLimit here (above ++ ([""] ++ ["."])) =
        tree.locateFrom linkLimit here (above ++ ["."]) := by
      rcases divides_locateFrom tree linkLimit here above with ⟨e, he⟩ | ⟨left, other, hdivides⟩
      · exact (he ([""] ++ ["."]) rfl).trans (he ["."] rfl).symm
      · have hother : tree.locateFrom left other ([""] ++ ["."]) =
            tree.locateFrom left other ["."] := by
          obtain ⟨follow, hfollow⟩ := exists_follow tree left
          rw [hfollow]
          rfl
        exact (hdivides ([""] ++ ["."]) rfl).trans (hother.trans (hdivides ["."] rfl).symm)
    rw [habove, List.append_assoc, hslash]

/-- A path below a directory leads there by way of the directory. -/
theorem exists_directoryOf_of_locate {tree : Tree} {base name : String} {place : Place}
    (hname : IsPlainName name) (h : tree.locate (join base name) = .ok place) :
    ∃ directory, tree.directoryOf (start tree.workingDirectory base) (pieces base) =
      .ok directory := by
  obtain ⟨above, habove, -, hjoin⟩ := exists_pieces_join base
  rw [locate_eq_ok_iff, hjoin name hname.isAbsolute, start_join _ _ hname.isAbsolute] at h
  obtain ⟨directory, hdirectory⟩ := exists_directory_of_locateFrom hname.onlySlashes h.2
  exact ⟨directory, (directoryOf_pieces_iff tree _ directory habove).mpr hdirectory⟩

/-- Below a directory without links a path leads to the location of its names. -/
theorem location?_of_locate {tree : Tree} {base name : String} {place : Place}
    {directory : Location} (hname : IsPlainName name)
    (hdirectory : tree.directoryOf (start tree.workingDirectory base) (pieces base) =
      .ok directory)
    (hlinks : tree.HoldsNoLinks directory) (h : tree.locate (join base name) = .ok place) :
    place.location? = some (directory ++ pieces name) := by
  obtain ⟨above, habove, -, hjoin⟩ := exists_pieces_join base
  rw [locate_eq_ok_iff, hjoin name hname.isAbsolute, start_join _ _ hname.isAbsolute] at h
  rw [directoryOf_pieces_iff tree _ directory habove] at hdirectory
  obtain ⟨left, hleft⟩ := exists_locateFrom_of_directory hdirectory
  obtain ⟨follow, hfollow⟩ := exists_follow tree left
  rw [hleft _ hname.onlySlashes, hfollow] at h
  exact location?_of_locateWith hlinks hname h.2

/-! ### Writing under another name -/

/-- A file is filled where its path leads, in place of a file, whose mode it gets, or of
nothing. -/
theorem fillFile_eq_ok {tree filled : Tree} {mode : Nat} {path : String} {content : List UInt8}
    (h : tree.fillFile mode path content = .ok filled) :
    ∃ place location mode', tree.locate path = .ok place ∧ place.location? = some location ∧
      filled = tree.put location (.file mode' content) ∧
      (tree.get? location = none ∨ ∃ old, tree.get? location = some (.file mode' old)) := by
  rcases (fillFile_eq_ok_iff _ _ _ _ _).mp h with ⟨location, mode', old, hplace, hfile, rfl⟩ |
    ⟨directory, name, hplace, rfl⟩
  · exact ⟨_, location, mode', hplace, rfl, rfl, .inr ⟨old, hfile⟩⟩
  · have hfree := get?_of_locateFrom_vacant tree linkLimit _ _
      ((locate_eq_ok_iff tree _ _).mp hplace).2
    exact ⟨_, directory ++ [name], mode, hplace, rfl, rfl, .inl hfree⟩

/-- A directory without links, and a file that a path below it leads to. -/
structure Shelters (tree : Tree) (base path : String) (content : List UInt8) : Prop where
  directory : ∃ directory, tree.directoryOf (start tree.workingDirectory base) (pieces base) =
    .ok directory ∧ tree.HoldsNoLinks directory
  read : tree.read? path = some content

theorem Shelters.of_keeps {tree grown : Tree} {base path : String} {content : List UInt8}
    (h : tree.Shelters base path content) (hkeeps : tree.Keeps grown)
    (hlinks : ∀ location target, tree.get? location = none →
      grown.get? location ≠ some (.link target)) :
    grown.Shelters base path content := by
  obtain ⟨⟨directory, hdirectory, hfree⟩, hread⟩ := h
  refine ⟨⟨directory, ?_, fun names target hlink => ?_⟩, read?_of_keeps hkeeps hread⟩
  · rw [directoryOf_eq_ok_iff] at hdirectory ⊢
    rw [hkeeps.workingDirectory]
    exact locateFrom_of_keeps hkeeps _ _ _ hdirectory
  · rcases hentry : tree.get? (directory ++ names) with _ | entry
    · exact hlinks _ _ hentry hlink
    · rw [hkeeps.get? _ _ hentry] at hlink
      exact hfree names target (hentry.trans hlink)

/-- A file in place of another one leaves everything as it is but the content that is read
there. -/
theorem Shelters.put_file {tree : Tree} {base path : String} {content : List UInt8}
    (h : tree.Shelters base path content) {location : Location} {old mode : Nat}
    {content' content'' : List UInt8} (hfile : tree.get? location = some (.file old content'))
    (hother : tree.locate path ≠ .ok (.existing location)) :
    (tree.put location (.file mode content'')).Shelters base path content := by
  obtain ⟨⟨directory, hdirectory, hfree⟩, hread⟩ := h
  have hroot : location ≠ [] := by
    rintro rfl
    simp [Tree.get?] at hfile
  refine ⟨⟨directory, ?_, fun names target hlink => ?_⟩, ?_⟩
  · rwa [directoryOf_eq_ok_iff, locateFrom_put_file tree hfile, ← directoryOf_eq_ok_iff]
  · by_cases hsame : directory ++ names = location
    · rw [hsame, get?_put_self _ _ hroot] at hlink
      cases hlink
    · rw [get?_put_of_ne _ _ hsame] at hlink
      exact hfree names target hlink
  · obtain ⟨found, mode', hplace, hfound⟩ := (read?_eq_some_iff tree path content).mp hread
    have hne : found ≠ location := by
      rintro rfl
      exact hother hplace
    have hplace' : (tree.put location (.file mode content'')).locate path =
        .ok (.existing found) := by
      rw [locate, workingDirectory_put, locateFrom_put_file tree hfile]
      exact hplace
    exact read?_of_locate hplace' ((get?_put_of_ne _ _ hne).trans hfound)

/-- Writing under another name leaves the file alone. -/
theorem Shelters.fillFile {tree filled : Tree} {base name name' : String}
    {content content' : List UInt8}
    {mode : Nat} (h : tree.Shelters base (join base name) content) (hname : IsPlainName name)
    (hname' : IsPlainName name') (hne : name ≠ name')
    (hfill : tree.fillFile mode (join base name') content' = .ok filled) :
    filled.Shelters base (join base name) content := by
  obtain ⟨place, location, mode', hplace, hlocation, rfl, hold⟩ := fillFile_eq_ok hfill
  obtain ⟨directory, hdirectory, hlinks⟩ := h.directory
  rw [location?_of_locate hname' hdirectory hlinks hplace] at hlocation
  obtain rfl := Option.some.inj hlocation
  rcases hold with hfree | ⟨old, hfile⟩
  · refine h.of_keeps (keeps_put _ hfree) fun location target hother hlink => ?_
    by_cases hsame : location = directory ++ pieces name'
    · rw [hsame, get?_put_self _ _ (ne_nil_of_get?_eq_none hfree)] at hlink
      cases hlink
    · rw [get?_put_of_ne _ _ hsame, hother] at hlink
      cases hlink
  · refine h.put_file hfile fun hsame => ?_
    have hlocation := location?_of_locate hname hdirectory hlinks hsame
    have hpieces : pieces name' = pieces name := List.append_cancel_left (Option.some.inj hlocation)
    refine hne ?_
    rw [← intercalate_pieces name, ← intercalate_pieces name', hpieces]

end Tree

end Files

open Files

/-- A file below a directory without links stays as it is when others are written there. -/
theorem Files.Tree.Shelters.writeBelow {tree : Tree} {out name : String} {content : List UInt8}
    (h : tree.Shelters out (join out name) content) (hname : IsPlainName name)
    (file : GeneratedFile) (hfile : IsPlainName file.name) (hne : name ≠ file.name)
    (device : Device) :
    (file.writeBelow out device tree).1.Shelters out (join out name) content := by
  rcases file.writeBelow_cases out device tree with ⟨-, hwrite⟩ | ⟨-, grown, hgrown, hwrite⟩
  · rw [hwrite]
    exact h
  · have hshelters : grown.Shelters out (join out name) content := by
      refine h.of_keeps hgrown.toKeeps fun location target hfree hlink => ?_
      cases (hgrown.added location _ hfree hlink).1
    rcases hwrite with ⟨e, cause, -, hwrite⟩ | ⟨filled, hfill, hwrite⟩ |
      ⟨room, fault, filled, -, -, hfill, hwrite⟩ <;> rw [hwrite]
    · exact hshelters
    · exact hshelters.fillFile hname hfile hne hfill
    · exact hshelters.fillFile hname hfile hne hfill

end Protogen
