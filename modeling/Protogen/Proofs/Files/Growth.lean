import Protogen.Proofs.Files.Components
import Protogen.Proofs.Files.ReadBack
import Protogen.Proofs.Outcome

/-!
# Trees that grow

A tree grows if entries are added and none is removed or changed. A path that leads somewhere
leads there in the grown tree too, since all that was met on the way is still there. Making the
missing directories of a path lets the tree grow by directories on the way to it, whether it
succeeds or not.
-/

namespace Protogen

namespace Files

namespace Tree

/-- What is in the first tree is in the second one, as it is. -/
structure Keeps (tree grown : Tree) : Prop where
  workingDirectory : grown.workingDirectory = tree.workingDirectory
  get? : ∀ location entry, tree.get? location = some entry → grown.get? location = some entry

theorem Keeps.refl (tree : Tree) : tree.Keeps tree := ⟨rfl, fun _ _ h => h⟩

theorem Keeps.trans {first second third : Tree} (h : first.Keeps second)
    (h' : second.Keeps third) : first.Keeps third :=
  ⟨h'.workingDirectory.trans h.workingDirectory,
    fun location entry hentry => h'.get? location entry (h.get? location entry hentry)⟩

theorem ne_nil_of_get?_eq_none {tree : Tree} {location : Location}
    (h : tree.get? location = none) : location ≠ [] := by
  rintro rfl
  simp [Tree.get?] at h

/-- A new entry leaves everything else where it is. -/
theorem keeps_put {tree : Tree} {location : Location} (entry : Entry)
    (h : tree.get? location = none) : tree.Keeps (tree.put location entry) where
  workingDirectory := rfl
  get? other found hfound := by
    have hne : other ≠ location := by
      rintro rfl
      rw [h] at hfound
      cases hfound
    rw [get?_put_of_ne tree entry hne, hfound]

/-! ### Ways through a grown tree -/

/-- A name leads to something through a directory, through a link, or by being the last one
and the name of a file. -/
theorem locateWith_normal_eq_existing_iff (tree : Tree)
    (follow : Location → List String → Except OsError Place) (here : Location)
    {piece name : String} (rest : List String)
    (hpiece : Component.ofPiece? piece = some (.normal name)) (location : Location) :
    tree.locateWith follow here (piece :: rest) = .ok (.existing location) ↔
      ¬(!rest.isEmpty && onlySlashes rest) ∧ ¬nameLimit < name.utf8ByteSize ∧
        ((∃ mode, tree.get? (here ++ [name]) = some (.directory mode) ∧
            tree.locateWith follow (here ++ [name]) rest = .ok (.existing location)) ∨
          (∃ target, tree.get? (here ++ [name]) = some (.link target) ∧
            follow (start here target) (pieces target ++ rest) = .ok (.existing location)) ∨
          (∃ mode content, tree.get? (here ++ [name]) = some (.file mode content) ∧ rest = [] ∧
            here ++ [name] = location)) := by
  rw [locateWith_normal _ _ _ _ hpiece]
  by_cases hslashed : (!rest.isEmpty && onlySlashes rest) = true
  · simp [hslashed]
  · by_cases hlong : nameLimit < name.utf8ByteSize
    · simp [hslashed, hlong]
    · rw [if_neg hslashed, if_neg hlong]
      rcases hentry : tree.get? (here ++ [name]) with _ | entry
      · cases rest <;> simp
      · cases entry with
        | directory mode => simp [hslashed, hlong]
        | file mode content => cases rest <;> simp [hlong]
        | link target => simp [hslashed, hlong]

theorem locateWith_of_keeps {tree grown : Tree} (h : tree.Keeps grown)
    {follow follow' : Location → List String → Except OsError Place} {location : Location}
    (hfollow : ∀ here rest, follow here rest = .ok (.existing location) →
      follow' here rest = .ok (.existing location))
    (here : Location) (rest : List String)
    (hplace : tree.locateWith follow here rest = .ok (.existing location)) :
    grown.locateWith follow' here rest = .ok (.existing location) := by
  induction rest generalizing here with
  | nil => simpa [locateWith] using hplace
  | cons piece rest ih =>
      rcases piece_cases piece with ⟨name, hpiece⟩ | hpiece | ⟨hnormal, hparent⟩
      · rw [locateWith_normal_eq_existing_iff _ _ _ _ hpiece] at hplace ⊢
        obtain ⟨hslashed, hlong, ⟨mode, hentry, hplace⟩ | ⟨target, hentry, hplace⟩ |
          ⟨mode, content, hentry, hplace⟩⟩ := hplace
        · exact ⟨hslashed, hlong, .inl ⟨mode, h.get? _ _ hentry, ih _ hplace⟩⟩
        · exact ⟨hslashed, hlong, .inr (.inl ⟨target, h.get? _ _ hentry, hfollow _ _ hplace⟩)⟩
        · exact ⟨hslashed, hlong, .inr (.inr ⟨mode, content, h.get? _ _ hentry, hplace⟩)⟩
      · rw [locateWith_parent _ _ _ _ hpiece] at hplace ⊢
        exact ih _ hplace
      · rw [locateWith_skip _ _ _ _ hnormal hparent] at hplace ⊢
        exact ih _ hplace

theorem locateFrom_of_keeps {tree grown : Tree} (h : tree.Keeps grown) {location : Location}
    (links : Nat) (here : Location) (rest : List String)
    (hplace : tree.locateFrom links here rest = .ok (.existing location)) :
    grown.locateFrom links here rest = .ok (.existing location) := by
  induction links generalizing here rest with
  | zero => exact locateWith_of_keeps h (by simp) here rest hplace
  | succ links ih => exact locateWith_of_keeps h ih here rest hplace

/-- A path that leads to something leads there in a grown tree. -/
theorem locate_of_keeps {tree grown : Tree} (h : tree.Keeps grown) {path : String}
    {location : Location} (hplace : tree.locate path = .ok (.existing location)) :
    grown.locate path = .ok (.existing location) := by
  rw [locate_eq_ok_iff] at hplace ⊢
  rw [h.workingDirectory]
  exact ⟨hplace.1, locateFrom_of_keeps h _ _ _ hplace.2⟩

theorem read?_eq_some_iff (tree : Tree) (path : String) (content : List UInt8) :
    tree.read? path = some content ↔ ∃ location mode,
      tree.locate path = .ok (.existing location) ∧
        tree.get? location = some (.file mode content) := by
  rw [read?]
  constructor
  · intro h
    split at h
    · rename_i location hplace
      split at h
      · rename_i mode found hfile
        obtain rfl := Option.some.inj h
        exact ⟨location, mode, hplace, hfile⟩
      · simp at h
    · simp at h
  · rintro ⟨location, mode, hplace, hfile⟩
    simp only [hplace, hfile]

theorem read?_of_keeps {tree grown : Tree} (h : tree.Keeps grown) {path : String}
    {content : List UInt8} (hread : tree.read? path = some content) :
    grown.read? path = some content := by
  obtain ⟨location, mode, hplace, hfile⟩ := (read?_eq_some_iff tree path content).mp hread
  exact read?_of_locate (locate_of_keeps h hplace) (h.get? _ _ hfile)

/-! ### Ways in two parts -/

/-- Pieces lead nowhere, whatever follows, or to a directory from which the rest is looked up
with the links that are left. Slashes alone are no rest, as they end a name. -/
def Divides (tree : Tree) (locate : List String → Except OsError Place) : Prop :=
  (∃ e, ∀ rest, onlySlashes rest = false → locate rest = .error e) ∨
    ∃ left directory, ∀ rest, onlySlashes rest = false →
      locate rest = tree.locateFrom left directory rest

theorem Divides.congr {tree : Tree} {locate locate' : List String → Except OsError Place}
    (h : tree.Divides locate)
    (heq : ∀ rest, onlySlashes rest = false → locate' rest = locate rest) :
    tree.Divides locate' := by
  rcases h with ⟨e, he⟩ | ⟨left, directory, hdirectory⟩
  · exact .inl ⟨e, fun rest hrest => (heq rest hrest).trans (he rest hrest)⟩
  · exact .inr ⟨left, directory, fun rest hrest => (heq rest hrest).trans (hdirectory rest hrest)⟩

theorem onlySlashes_append (front rest : List String) :
    onlySlashes (front ++ rest) = (onlySlashes front && onlySlashes rest) := by
  simp [onlySlashes]

/-- A name with more than slashes behind it is not the last one. -/
theorem locateWith_normal_of_more (tree : Tree)
    (follow : Location → List String → Except OsError Place) (here : Location)
    {piece name : String} (hpiece : Component.ofPiece? piece = some (.normal name))
    (rest : List String) (hrest : onlySlashes rest = false) :
    tree.locateWith follow here (piece :: rest) =
      if nameLimit < name.utf8ByteSize then .error .nameTooLong
      else match tree.get? (here ++ [name]) with
        | some (.directory _) => tree.locateWith follow (here ++ [name]) rest
        | some (.link target) => follow (start here target) (pieces target ++ rest)
        | some (.file _ _) => .error .notDirectory
        | none => .error .missing := by
  have hne : rest.isEmpty = false := by
    cases rest with
    | nil => simp [onlySlashes] at hrest
    | cons first rest => rfl
  rw [locateWith_normal _ _ _ _ hpiece, hrest, hne]
  rfl

theorem divides_locateWith {tree : Tree} {links : Nat}
    {follow : Location → List String → Except OsError Place}
    (hlinks : tree.locateFrom links = tree.locateWith follow)
    (hfollow : ∀ here front, tree.Divides fun rest => follow here (front ++ rest))
    (here : Location) (front : List String) :
    tree.Divides fun rest => tree.locateWith follow here (front ++ rest) := by
  induction front generalizing here with
  | nil => exact .inr ⟨links, here, fun rest _ => by rw [hlinks]; rfl⟩
  | cons piece front ih =>
      rcases piece_cases piece with ⟨name, hpiece⟩ | hpiece | ⟨hnormal, hparent⟩
      · have hstep (rest : List String) (hrest : onlySlashes rest = false) :=
          locateWith_normal_of_more tree follow here hpiece (front ++ rest)
            (by rw [onlySlashes_append, hrest, Bool.and_false])
        by_cases hlong : nameLimit < name.utf8ByteSize
        · exact .inl ⟨.nameTooLong, fun rest hrest => (hstep rest hrest).trans (if_pos hlong)⟩
        rcases hentry : tree.get? (here ++ [name]) with _ | ⟨mode⟩ | ⟨mode, content⟩ | ⟨target⟩ <;>
          simp only [hentry, if_neg hlong] at hstep
        · exact .inl ⟨.missing, hstep⟩
        · exact (ih (here ++ [name])).congr hstep
        · exact .inl ⟨.notDirectory, hstep⟩
        · refine (hfollow (start here target) (pieces target ++ front)).congr fun rest hrest => ?_
          rw [List.append_assoc]
          exact hstep rest hrest
      · simp only [List.cons_append, locateWith_parent _ _ _ _ hpiece]
        exact ih here.dropLast
      · simp only [List.cons_append, locateWith_skip _ _ _ _ hnormal hparent]
        exact ih here

theorem divides_locateFrom (tree : Tree) (links : Nat) (here : Location) (front : List String) :
    tree.Divides fun rest => tree.locateFrom links here (front ++ rest) := by
  induction links generalizing here front with
  | zero =>
      have hlinks : tree.locateFrom 0 = tree.locateWith fun _ _ => .error .tooManyLinks := rfl
      exact divides_locateWith hlinks (fun _ _ => .inl ⟨_, fun _ _ => rfl⟩) here front
  | succ links ih =>
      have hlinks : tree.locateFrom (links + 1) = tree.locateWith (tree.locateFrom links) := rfl
      exact divides_locateWith hlinks ih here front

theorem exists_follow (tree : Tree) (links : Nat) :
    ∃ follow, tree.locateFrom links = tree.locateWith follow := by
  cases links with
  | zero => exact ⟨_, rfl⟩
  | succ links => exact ⟨_, rfl⟩

theorem locateFrom_dot (tree : Tree) (links : Nat) (here : Location) :
    tree.locateFrom links here ["."] = .ok (.existing here) := by
  obtain ⟨follow, hfollow⟩ := exists_follow tree links
  rw [hfollow]
  rfl

/-- What follows the way to a directory is looked up from there. -/
theorem exists_locateFrom_of_directory {tree : Tree} {links : Nat} {here directory : Location}
    {front : List String}
    (h : tree.locateFrom links here (front ++ ["."]) = .ok (.existing directory)) :
    ∃ left, ∀ rest, onlySlashes rest = false →
      tree.locateFrom links here (front ++ rest) = tree.locateFrom left directory rest := by
  rcases divides_locateFrom tree links here front with ⟨e, he⟩ | ⟨left, other, hdivides⟩
  · cases (he ["."] rfl).symm.trans h
  · have hdot := (hdivides ["."] rfl).symm.trans h
    rw [locateFrom_dot] at hdot
    obtain rfl := Place.existing.inj (Except.ok.inj hdot)
    exact ⟨left, hdivides⟩

/-- The first part of a way is the way to a directory. -/
theorem exists_directory_of_locateFrom {tree : Tree} {links : Nat} {here : Location}
    {front rest : List String} {place : Place} (hrest : onlySlashes rest = false)
    (h : tree.locateFrom links here (front ++ rest) = .ok place) :
    ∃ directory, tree.locateFrom links here (front ++ ["."]) = .ok (.existing directory) := by
  rcases divides_locateFrom tree links here front with ⟨e, he⟩ | ⟨left, directory, hdivides⟩
  · cases (he rest hrest).symm.trans h
  · exact ⟨directory, (hdivides ["."] rfl).trans (locateFrom_dot tree left directory)⟩

/-! ### New directories -/

theorem directoryOf_eq_ok_iff (tree : Tree) (here directory : Location) (path : List String) :
    tree.directoryOf here path = .ok directory ↔
      tree.locateFrom linkLimit here (path ++ ["."]) = .ok (.existing directory) := by
  rw [directoryOf]
  split <;> simp_all

theorem newLocation_eq_ok {tree : Tree} {path : String} {location : Location}
    (h : tree.newLocation path = .ok location) :
    ∃ piece above directory name, (pieces path).reverse.dropWhile String.isEmpty = piece :: above ∧
      Component.ofPiece? piece = some (.normal name) ∧ checkPath path = .ok () ∧
      tree.locateFrom linkLimit (start tree.workingDirectory path) (above.reverse ++ ["."]) =
        .ok (.existing directory) ∧
      ¬nameLimit < name.utf8ByteSize ∧ tree.get? (directory ++ [name]) = none ∧
      location = directory ++ [name] := by
  obtain ⟨_, hcheck, h⟩ := (Outcome.bind_eq_ok_iff _ _ _).mp h
  split at h
  · simp at h
  · rename_i piece above hpieces
    obtain ⟨directory, hdirectory, h⟩ := (Outcome.bind_eq_ok_iff _ _ _).mp h
    rw [directoryOf_eq_ok_iff] at hdirectory
    split at h
    · rename_i name hpiece
      split at h
      · simp at h
      · rename_i hshort
        split at h
        · simp at h
        · rename_i hfree
          exact ⟨piece, above, directory, name, hpieces, hpiece, hcheck, hdirectory, hshort,
            by simpa using hfree, (Except.ok.inj h).symm⟩
    · simp at h

/-- A path that a directory can be made under: it names nothing else than the directory, as
there are no slashes at its end, or it is the root, under which nothing can be made. -/
def NamesDirectory (path : String) : Prop :=
  path = "/" ∨ ∃ lead piece, piece ≠ "" ∧ pieces path = lead ++ [piece]

theorem namesDirectory_of_mem_ancestors {directory path : String}
    (h : directory ∈ ancestors path) : NamesDirectory directory := by
  rcases exists_pieces_of_mem_ancestors h with ⟨rfl, -⟩ | ⟨lead, piece, -, hpiece, hpieces, -⟩
  · exact .inl rfl
  · exact .inr ⟨lead, piece, hpiece, hpieces⟩

/-- Such a path leads to the directory that was made under it. -/
theorem locate_put_directory {tree : Tree} {path : String} {location : Location}
    (hpath : NamesDirectory path) (h : tree.newLocation path = .ok location) (mode : Nat) :
    (tree.put location (.directory mode)).locate path = .ok (.existing location) := by
  obtain ⟨last, above, directory, name, hlast, hname, hcheck, hdirectory, hshort, hfree, rfl⟩ :=
    newLocation_eq_ok h
  have hgrown := locateFrom_of_keeps (keeps_put (.directory mode) hfree) _ _ _ hdirectory
  have hself := get?_put_self tree (.directory mode) (ne_nil_of_get?_eq_none hfree)
  obtain rfl | ⟨lead, piece, hpiece, hpieces⟩ := hpath
  · simp at hlast
  rw [hpieces, List.reverse_append, List.reverse_singleton, List.singleton_append,
    List.dropWhile_cons_of_neg (by simpa using hpiece)] at hlast
  obtain ⟨rfl, rfl⟩ := List.cons.inj hlast
  rw [List.reverse_reverse] at hgrown
  obtain ⟨left, hleft⟩ := exists_locateFrom_of_directory hgrown
  obtain ⟨follow, hfollow⟩ := exists_follow (tree.put (directory ++ [name]) (.directory mode)) left
  rw [locate_eq_ok_iff, hpieces, workingDirectory_put, hleft [piece] (by simpa [onlySlashes]),
    hfollow, locateWith_normal_eq_existing_iff _ _ _ _ hname]
  exact ⟨hcheck, by simp, hshort, .inl ⟨mode, hself, rfl⟩⟩

/-- The tree has grown by directories, to each of which one of the paths leads. -/
structure GrowsBy (tree grown : Tree) (paths : List String) : Prop extends tree.Keeps grown where
  added : ∀ location entry, tree.get? location = none → grown.get? location = some entry →
    entry = .directory directoryMode ∧ ∃ path ∈ paths, grown.locate path = .ok (.existing location)

/-- The tree has grown by directories on the way to the path. -/
structure GrowsTowards (tree grown : Tree) (path : String) : Prop extends tree.Keeps grown where
  added : ∀ location entry, tree.get? location = none → grown.get? location = some entry →
    entry = .directory directoryMode ∧ ∃ directory, LeadsTowards directory path ∧
      grown.locate directory = .ok (.existing location)

theorem GrowsTowards.refl (tree : Tree) (path : String) : tree.GrowsTowards tree path where
  toKeeps := .refl tree
  added _ _ h h' := by simp [h] at h'

theorem GrowsBy.growsTowards {tree grown : Tree} {path : String}
    (h : tree.GrowsBy grown (ancestors path).tail) : tree.GrowsTowards grown path where
  toKeeps := h.toKeeps
  added location entry hfree hentry := by
    obtain ⟨hdirectory, directory, hmem, hplace⟩ := h.added location entry hfree hentry
    exact ⟨hdirectory, directory, leadsTowards_of_mem_ancestors hmem, hplace⟩

theorem GrowsBy.refl (tree : Tree) (paths : List String) : tree.GrowsBy tree paths where
  toKeeps := .refl tree
  added _ _ h h' := by simp [h] at h'

theorem GrowsBy.mono {tree grown : Tree} {paths paths' : List String}
    (h : tree.GrowsBy grown paths) (hsub : paths ⊆ paths') : tree.GrowsBy grown paths' where
  toKeeps := h.toKeeps
  added location entry hfree hentry := by
    obtain ⟨hdirectory, path, hpath, hplace⟩ := h.added location entry hfree hentry
    exact ⟨hdirectory, path, hsub hpath, hplace⟩

theorem makeDirectory_eq_ok_iff (tree made : Tree) (device : Device) (path : String) :
    tree.makeDirectory device path = .ok made ↔ ∃ location,
      tree.newLocation path = .ok location ∧ device.permits path = .ok () ∧
        tree.put location (.directory directoryMode) = made := by
  rw [makeDirectory]
  rcases tree.newLocation path with e | location
  · simp [bind, Except.bind]
  · rcases device.permits path with e | ⟨⟩ <;> simp [bind, Except.bind, pure, Except.pure]

theorem GrowsBy.makeDirectory {tree grown made : Tree} {device : Device} {path : String}
    {paths : List String} (h : tree.GrowsBy grown paths) (hpath : NamesDirectory path)
    (hmade : grown.makeDirectory device path = .ok made) : tree.GrowsBy made (path :: paths) := by
  obtain ⟨location, hnew, -, rfl⟩ := (makeDirectory_eq_ok_iff _ _ _ _).mp hmade
  obtain ⟨-, -, directory, name, -, -, -, -, -, hfree, rfl⟩ := newLocation_eq_ok hnew
  have hkeeps := keeps_put (.directory directoryMode) hfree
  refine ⟨h.toKeeps.trans hkeeps, fun other entry hother hentry => ?_⟩
  by_cases hsame : other = directory ++ [name]
  · subst hsame
    rw [get?_put_self _ _ (ne_nil_of_get?_eq_none hfree)] at hentry
    exact ⟨(Option.some.inj hentry).symm, path, List.mem_cons_self,
      locate_put_directory hpath hnew directoryMode⟩
  · rw [get?_put_of_ne _ _ hsame] at hentry
    obtain ⟨hdirectory, above, habove, hplace⟩ := h.added other entry hother hentry
    exact ⟨hdirectory, above, List.mem_cons_of_mem _ habove, locate_of_keeps hkeeps hplace⟩

/-- Making directories adds directories that the paths lead to, whether it succeeds or not. -/
theorem growsBy_makeDirectories (tree : Tree) (device : Device) {paths : List String}
    (hpaths : ∀ path ∈ paths, NamesDirectory path) :
    tree.GrowsBy (tree.makeDirectories device paths).1 paths := by
  induction paths with
  | nil => exact .refl tree []
  | cons path above ih =>
      obtain ⟨hpath, habove⟩ := List.forall_mem_cons.mp hpaths
      have hgrown := ih habove
      rw [makeDirectories]
      split
      · rename_i made hmade
        exact ((GrowsBy.refl tree above).makeDirectory hpath hmade)
      · rcases hrest : tree.makeDirectories device above with ⟨grown, e | ⟨⟩⟩ <;>
          rw [hrest] at hgrown
        · exact hgrown.mono (List.subset_cons_self path above)
        · rcases hmade : grown.makeDirectory device path with e | made
          · simp only [hmade]
            exact hgrown.mono (List.subset_cons_self path above)
          · simp only [hmade]
            exact hgrown.makeDirectory hpath hmade
      · exact .refl tree _

theorem growsBy_ancestors (tree : Tree) (device : Device) (path : String) :
    tree.GrowsBy (tree.makeDirectories device (ancestors path).tail).1 (ancestors path).tail :=
  tree.growsBy_makeDirectories device fun _ hmem =>
    namesDirectory_of_mem_ancestors (List.mem_of_mem_tail hmem)

end Tree

end Files

end Protogen
