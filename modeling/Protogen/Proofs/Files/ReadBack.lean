import Protogen.Artifact

/-!
# Reading back what was written

A path leads through directories and links only, and every one of them is looked
up at its location. Writing a file changes the tree at one location, which is a
file or nothing before and a file after, so no path is led elsewhere by it: a path
that ends there before ends there after. Hence a file that was written is what the
same path reads.
-/

namespace Protogen

namespace Files

namespace Tree

@[simp] theorem workingDirectory_put (tree : Tree) (location : Location) (entry : Entry) :
    (tree.put location entry).workingDirectory = tree.workingDirectory := rfl

theorem get?_eq_lookup (tree : Tree) {location : Location} (h : location ≠ []) :
    tree.get? location = tree.entries.lookup location := by
  rw [get?, if_neg (by simpa using h)]

/-- The entry that was put is found. The root cannot be replaced. -/
theorem get?_put_self (tree : Tree) {location : Location} (entry : Entry)
    (h : location ≠ []) : (tree.put location entry).get? location = some entry := by
  rw [get?_eq_lookup _ h]
  exact List.lookup_cons_self

theorem lookup_filter_ne {location other : Location} (h : other ≠ location)
    (entries : List (Location × Entry)) :
    (entries.filter fun e => e.1 != location).lookup other = entries.lookup other := by
  induction entries with
  | nil => rfl
  | cons e es ih =>
      obtain ⟨here, entry⟩ := e
      by_cases hhere : here = location
      · have hne : (other == here) = false := by simpa [hhere] using h
        simp only [List.filter_cons, hhere, bne_self_eq_false, Bool.false_eq_true, if_false,
          List.lookup_cons, ih]
        rw [← hhere, hne]
      · simp [List.lookup_cons, hhere, ih]

/-- No other entry is touched. -/
theorem get?_put_of_ne (tree : Tree) {location other : Location} (entry : Entry)
    (h : other ≠ location) : (tree.put location entry).get? other = tree.get? other := by
  by_cases hroot : other = []
  · simp [get?, hroot]
  · rw [get?_eq_lookup _ hroot, get?_eq_lookup _ hroot, put, List.lookup_cons]
    have hne : (other == location) = false := by simpa using h
    rw [hne]
    exact lookup_filter_ne h tree.entries

/-- A name is looked up where the path stands. -/
theorem locateWith_normal (tree : Tree) (follow : Location → List String → Except OsError Place)
    (here : Location) {piece name : String} (rest : List String)
    (hpiece : Component.ofPiece? piece = some (.normal name)) :
    tree.locateWith follow here (piece :: rest) =
      if !rest.isEmpty && onlySlashes rest then .ok .slashed
      else if nameLimit < name.utf8ByteSize then .error .nameTooLong
      else match tree.get? (here ++ [name]) with
        | some (.directory _) => tree.locateWith follow (here ++ [name]) rest
        | some (.link target) => follow (start here target) (pieces target ++ rest)
        | some (.file _ _) =>
          if rest.isEmpty then .ok (.existing (here ++ [name])) else .error .notDirectory
        | none => if rest.isEmpty then .ok (.vacant here name) else .error .missing := by
  have hstep := locateWith.eq_2 tree follow here piece rest
  rw [hpiece] at hstep
  exact hstep

theorem locateWith_parent (tree : Tree) (follow : Location → List String → Except OsError Place)
    (here : Location) {piece : String} (rest : List String)
    (hpiece : Component.ofPiece? piece = some .parent) :
    tree.locateWith follow here (piece :: rest) =
      tree.locateWith follow here.dropLast rest := by
  rw [locateWith, hpiece]

/-- Every other piece is passed over. -/
theorem locateWith_skip (tree : Tree) (follow : Location → List String → Except OsError Place)
    (here : Location) {piece : String} (rest : List String)
    (hnormal : ∀ name, Component.ofPiece? piece ≠ some (.normal name))
    (hparent : Component.ofPiece? piece ≠ some .parent) :
    tree.locateWith follow here (piece :: rest) = tree.locateWith follow here rest := by
  rw [locateWith]
  split
  · rename_i name h
    exact absurd h (hnormal name)
  · rename_i h
    exact absurd h hparent
  · rfl

/-- The three kinds of pieces. -/
theorem piece_cases (piece : String) :
    (∃ name, Component.ofPiece? piece = some (.normal name)) ∨
      Component.ofPiece? piece = some .parent ∨
      ((∀ name, Component.ofPiece? piece ≠ some (.normal name)) ∧
        Component.ofPiece? piece ≠ some .parent) := by
  rcases h : Component.ofPiece? piece with _ | component
  · simp
  · cases component <;> simp

/-- A file in place of a file changes no path. -/
theorem locateWith_put_file (tree : Tree) {location : Location} {old mode : Nat}
    {content content' : List UInt8} (hfile : tree.get? location = some (.file old content))
    (follow : Location → List String → Except OsError Place) (here : Location)
    (rest : List String) :
    (tree.put location (.file mode content')).locateWith follow here rest =
      tree.locateWith follow here rest := by
  have hroot : location ≠ [] := by
    rintro rfl
    simp [get?] at hfile
  induction rest generalizing here with
  | nil => rfl
  | cons piece rest ih =>
      rcases piece_cases piece with ⟨name, hpiece⟩ | hpiece | ⟨hnormal, hparent⟩
      · rw [locateWith_normal _ _ _ _ hpiece, locateWith_normal _ _ _ _ hpiece]
        by_cases hhere : here ++ [name] = location
        · simp only [hhere, hfile, get?_put_self tree _ hroot]
        · simp only [get?_put_of_ne tree _ hhere, ih]
      · rw [locateWith_parent _ _ _ _ hpiece, locateWith_parent _ _ _ _ hpiece, ih]
      · rw [locateWith_skip _ _ _ _ hnormal hparent, locateWith_skip _ _ _ _ hnormal hparent, ih]

theorem locateFrom_put_file (tree : Tree) {location : Location} {old mode : Nat}
    {content content' : List UInt8} (hfile : tree.get? location = some (.file old content))
    (links : Nat) :
    (tree.put location (.file mode content')).locateFrom links = tree.locateFrom links := by
  induction links with
  | zero =>
      funext here rest
      exact locateWith_put_file tree hfile _ here rest
  | succ links ih =>
      funext here rest
      rw [locateFrom, locateFrom, ih]
      exact locateWith_put_file tree hfile _ here rest

/-- A name leads to a vacant place through a directory, through a link, or by being
the last one and the name of nothing. -/
theorem locateWith_normal_eq_vacant_iff (tree : Tree)
    (follow : Location → List String → Except OsError Place) (here : Location)
    {piece name : String} (rest : List String)
    (hpiece : Component.ofPiece? piece = some (.normal name)) (directory : Location)
    (last : String) :
    tree.locateWith follow here (piece :: rest) = .ok (.vacant directory last) ↔
      ¬(!rest.isEmpty && onlySlashes rest) ∧ ¬nameLimit < name.utf8ByteSize ∧
        ((∃ mode, tree.get? (here ++ [name]) = some (.directory mode) ∧
            tree.locateWith follow (here ++ [name]) rest = .ok (.vacant directory last)) ∨
          (∃ target, tree.get? (here ++ [name]) = some (.link target) ∧
            follow (start here target) (pieces target ++ rest) =
              .ok (.vacant directory last)) ∨
          (tree.get? (here ++ [name]) = none ∧ rest = [] ∧ here = directory ∧ name = last)) := by
  rw [locateWith_normal _ _ _ _ hpiece]
  by_cases hslashed : (!rest.isEmpty && onlySlashes rest) = true
  · simp [hslashed]
  · by_cases hlong : nameLimit < name.utf8ByteSize
    · simp [hslashed, hlong]
    · rw [if_neg hslashed, if_neg hlong]
      rcases hentry : tree.get? (here ++ [name]) with _ | entry
      · cases rest <;> simp [hlong]
      · cases entry with
        | directory mode => simp [hslashed, hlong]
        | file mode content => cases rest <;> simp
        | link target => simp [hslashed, hlong]

/-- Nothing is at a vacant place. -/
theorem get?_of_locateWith_vacant (tree : Tree)
    {follow : Location → List String → Except OsError Place} {directory : Location}
    {name : String}
    (hfollow : ∀ here rest, follow here rest = .ok (.vacant directory name) →
      tree.get? (directory ++ [name]) = none)
    (here : Location) (rest : List String)
    (h : tree.locateWith follow here rest = .ok (.vacant directory name)) :
    tree.get? (directory ++ [name]) = none := by
  induction rest generalizing here with
  | nil => simp [locateWith] at h
  | cons piece rest ih =>
      rcases piece_cases piece with ⟨next, hpiece⟩ | hpiece | ⟨hnormal, hparent⟩
      · rw [locateWith_normal_eq_vacant_iff _ _ _ _ hpiece] at h
        obtain ⟨-, -, ⟨mode, -, h⟩ | ⟨target, -, h⟩ | ⟨hfree, -, rfl, rfl⟩⟩ := h
        · exact ih _ h
        · exact hfollow _ _ h
        · exact hfree
      · exact ih _ (by rwa [locateWith_parent _ _ _ _ hpiece] at h)
      · exact ih _ (by rwa [locateWith_skip _ _ _ _ hnormal hparent] at h)

theorem get?_of_locateFrom_vacant (tree : Tree) {directory : Location} {name : String}
    (links : Nat) (here : Location) (rest : List String)
    (h : tree.locateFrom links here rest = .ok (.vacant directory name)) :
    tree.get? (directory ++ [name]) = none := by
  induction links generalizing here rest with
  | zero => exact get?_of_locateWith_vacant tree (by simp) here rest h
  | succ links ih => exact get?_of_locateWith_vacant tree ih here rest h

/-- A path that led to a vacant place leads to the file that was put there: nothing
else was looked up at that location on the way, since the way ends where nothing
is. -/
theorem locateWith_put_vacant (tree : Tree)
    {follow follow' : Location → List String → Except OsError Place} {directory : Location}
    {name : String} (mode : Nat) (content : List UInt8)
    (hfree : tree.get? (directory ++ [name]) = none)
    (hfollow : ∀ here rest, follow here rest = .ok (.vacant directory name) →
      follow' here rest = .ok (.existing (directory ++ [name])))
    (here : Location) (rest : List String)
    (h : tree.locateWith follow here rest = .ok (.vacant directory name)) :
    (tree.put (directory ++ [name]) (.file mode content)).locateWith follow' here rest =
      .ok (.existing (directory ++ [name])) := by
  induction rest generalizing here with
  | nil => simp [locateWith] at h
  | cons piece rest ih =>
      rcases piece_cases piece with ⟨next, hpiece⟩ | hpiece | ⟨hnormal, hparent⟩
      · rw [locateWith_normal_eq_vacant_iff _ _ _ _ hpiece] at h
        obtain ⟨hslashed, hlong, h⟩ := h
        rw [locateWith_normal _ _ _ _ hpiece, if_neg hslashed, if_neg hlong]
        rcases h with ⟨old, hentry, h⟩ | ⟨target, hentry, h⟩ | ⟨-, rfl, rfl, rfl⟩
        · have hne : here ++ [next] ≠ directory ++ [name] := by
            rintro heq
            simp [heq, hfree] at hentry
          simp only [get?_put_of_ne tree _ hne, hentry]
          exact ih _ h
        · have hne : here ++ [next] ≠ directory ++ [name] := by
            rintro heq
            simp [heq, hfree] at hentry
          simp only [get?_put_of_ne tree _ hne, hentry]
          exact hfollow _ _ h
        · simp [get?_put_self]
      · rw [locateWith_parent _ _ _ _ hpiece] at h ⊢
        exact ih _ h
      · rw [locateWith_skip _ _ _ _ hnormal hparent] at h ⊢
        exact ih _ h

theorem locateFrom_put_vacant (tree : Tree) {directory : Location} {name : String}
    (mode : Nat) (content : List UInt8) (hfree : tree.get? (directory ++ [name]) = none)
    (links : Nat) (here : Location) (rest : List String)
    (h : tree.locateFrom links here rest = .ok (.vacant directory name)) :
    (tree.put (directory ++ [name]) (.file mode content)).locateFrom links here rest =
      .ok (.existing (directory ++ [name])) := by
  induction links generalizing here rest with
  | zero => exact locateWith_put_vacant tree mode content hfree (by simp) here rest h
  | succ links ih => exact locateWith_put_vacant tree mode content hfree ih here rest h

/-- What a path reads, by the place it leads to. -/
theorem read?_of_locate {tree : Tree} {path : String} {content : List UInt8}
    {location : Location} {mode : Nat}
    (hplace : tree.locate path = .ok (.existing location))
    (hfile : tree.get? location = some (.file mode content)) :
    tree.read? path = some content := by
  simp only [read?, hplace, hfile]

/-- A path that led to a file leads to the file that takes its place. -/
theorem locate_put_file (tree : Tree) {path : String} {location : Location} {old : Nat}
    {content : List UInt8} (hplace : tree.locate path = .ok (.existing location))
    (hfile : tree.get? location = some (.file old content)) (mode : Nat) (content' : List UInt8) :
    (tree.put location (.file mode content')).locate path = .ok (.existing location) := by
  rw [locate, workingDirectory_put, locateFrom_put_file tree hfile]
  exact hplace

theorem locate_eq_ok_iff (tree : Tree) (path : String) (place : Place) :
    tree.locate path = .ok place ↔
      checkPath path = .ok () ∧
        tree.locateFrom linkLimit (start tree.workingDirectory path) (pieces path) =
          .ok place := by
  rw [locate]
  rcases checkPath path with e | ⟨⟩
  · simp [bind, Except.bind]
  · simp [bind, Except.bind]

theorem locate_put_vacant (tree : Tree) {path : String} {directory : Location} {name : String}
    (hplace : tree.locate path = .ok (.vacant directory name)) (mode : Nat)
    (content : List UInt8) :
    (tree.put (directory ++ [name]) (.file mode content)).locate path =
      .ok (.existing (directory ++ [name])) := by
  obtain ⟨hcheck, hplace⟩ := (locate_eq_ok_iff tree path _).mp hplace
  have hfree := get?_of_locateFrom_vacant tree linkLimit _ _ hplace
  exact (locate_eq_ok_iff _ path _).mpr
    ⟨hcheck, locateFrom_put_vacant tree mode content hfree linkLimit _ _ hplace⟩

/-- A file is filled in place of a file, whose mode it gets, or of nothing. -/
theorem fillFile_eq_ok_iff (tree filled : Tree) (mode : Nat) (path : String)
    (content : List UInt8) :
    tree.fillFile mode path content = .ok filled ↔
      (∃ target mode' old, tree.locate path = .ok (.existing target) ∧
        tree.get? target = some (.file mode' old) ∧
        tree.put target (.file mode' content) = filled) ∨
      ∃ directory name, tree.locate path = .ok (.vacant directory name) ∧
        tree.put (directory ++ [name]) (.file mode content) = filled := by
  rw [fillFile]
  rcases tree.locate path with e | target | ⟨directory, name⟩ | _
  · simp
  · rcases hentry : tree.get? target with _ | ⟨mode'⟩ | ⟨mode', old⟩ | ⟨link⟩ <;> simp [hentry]
  · simp [and_assoc]
  · simp

/-- The file that was filled is where its path leads. -/
theorem exists_target_of_fillFile {tree filled : Tree} {mode : Nat} {path : String}
    {content : List UInt8} (h : tree.fillFile mode path content = .ok filled) :
    ∃ target mode', filled = tree.put target (.file mode' content) ∧ target ≠ [] ∧
      filled.locate path = .ok (.existing target) ∧
      ((tree.get? target = none ∧ mode' = mode) ∨
        ∃ old, tree.get? target = some (.file mode' old)) := by
  rcases (fillFile_eq_ok_iff _ _ _ _ _).mp h with ⟨target, mode', old, hplace, hfile, rfl⟩ |
    ⟨directory, name, hplace, rfl⟩
  · refine ⟨target, mode', rfl, ?_, locate_put_file tree hplace hfile _ _, .inr ⟨old, hfile⟩⟩
    rintro rfl
    simp [get?] at hfile
  · have hfree := get?_of_locateFrom_vacant tree linkLimit _ _
      ((locate_eq_ok_iff tree _ _).mp hplace).2
    exact ⟨directory ++ [name], mode, rfl, by simp, locate_put_vacant tree hplace _ _,
      .inl ⟨hfree, rfl⟩⟩

/-- What a file was filled with is what its path reads. -/
theorem read?_of_fillFile {tree filled : Tree} {mode : Nat} {path : String}
    {content : List UInt8} (h : tree.fillFile mode path content = .ok filled) :
    filled.read? path = some content := by
  obtain ⟨target, mode', rfl, hroot, hplace, -⟩ := exists_target_of_fillFile h
  exact read?_of_locate hplace (get?_put_self tree _ hroot)

end Tree

/-- All bytes are taken, or the device fails before the last one. -/
theorem Device.take_cases (device : Device) (bytes : List UInt8) :
    device.take bytes = (bytes, .ok ()) ∨
      ∃ room fault, device.room? = some (room, fault) ∧ room < bytes.length ∧
        device.take bytes = (bytes.take room, .error fault) := by
  rw [Device.take]
  rcases device.room? with _ | ⟨room, fault⟩
  · exact .inl rfl
  · by_cases hroom : bytes.length ≤ room
    · exact .inl (if_pos hroom)
    · exact .inr ⟨room, fault, rfl, Nat.lt_of_not_le hroom, if_neg hroom⟩

namespace Tree

/-- A write is refused, or it fills the file, or the device leaves it with a beginning. -/
theorem writeFile_cases (tree : Tree) (device : Device) (mode : Nat) (path : String)
    (content : List UInt8) :
    (∃ cause, tree.writeFile device mode path content = (tree, .error cause)) ∨
      (∃ filled, device.permits path = .ok () ∧ device.take content = (content, .ok ()) ∧
        tree.fillFile mode path content = .ok filled ∧
        tree.writeFile device mode path content = (filled, .ok ())) ∨
      ∃ room fault filled, device.room? = some (room, fault) ∧ room < content.length ∧
        tree.fillFile mode path (content.take room) = .ok filled ∧
        tree.writeFile device mode path content = (filled, .error fault) := by
  rw [writeFile]
  rcases hfill : tree.fillFile mode path (device.take content).1 with cause | filled
  · exact .inl ⟨cause, rfl⟩
  · rcases device.permits path with cause | ⟨⟩
    · exact .inl ⟨cause, rfl⟩
    · rcases device.take_cases content with htake | ⟨room, fault, hdevice, hroom, htake⟩
      · rw [htake] at hfill ⊢
        exact .inr (.inl ⟨filled, rfl, rfl, hfill, rfl⟩)
      · rw [htake] at hfill ⊢
        exact .inr (.inr ⟨room, fault, filled, hdevice, hroom, hfill, rfl⟩)

theorem writeFile_eq_ok_iff (tree written : Tree) (device : Device) (mode : Nat) (path : String)
    (content : List UInt8) :
    tree.writeFile device mode path content = (written, .ok ()) ↔
      device.permits path = .ok () ∧ device.take content = (content, .ok ()) ∧
        tree.fillFile mode path content = .ok written := by
  constructor
  · intro h
    rcases tree.writeFile_cases device mode path content with ⟨cause, hwrite⟩ |
      ⟨filled, hpermits, htake, hfill, hwrite⟩ | ⟨room, fault, filled, -, -, -, hwrite⟩ <;>
      obtain ⟨hsame, hok⟩ := Prod.mk.inj (hwrite.symm.trans h)
    · cases hok
    · exact ⟨hpermits, htake, hsame ▸ hfill⟩
    · cases hok
  · rintro ⟨hpermits, htake, hfill⟩
    simp only [writeFile, hpermits, htake, hfill]

end Tree

end Files

namespace GeneratedFile

open Files

theorem writeBelow_eq_ok_iff (file : GeneratedFile) (out path : String) (device : Device)
    (tree written : Tree) :
    file.writeBelow out device tree = (written, .ok path) ↔
      staysInside file.name = true ∧ path = file.pathBelow out ∧
        ∃ grown, tree.makeDirectories device (ancestors (file.pathBelow out)).tail =
            (grown, .ok ()) ∧
          grown.writeFile device fileMode (file.pathBelow out) file.bytes = (written, .ok ()) := by
  rw [writeBelow]
  by_cases hinside : staysInside file.name = true
  · rw [if_pos hinside]
    rcases tree.makeDirectories device (ancestors (file.pathBelow out)).tail with ⟨grown, e | ⟨⟩⟩
    · simp
    · rcases hwrite : grown.writeFile device fileMode (file.pathBelow out) file.bytes with
        ⟨left, e | ⟨⟩⟩
      · simp [hwrite]
      · simp [hinside, hwrite, and_comm, eq_comm]
  · simp [hinside]

/-- A file that was written below an output directory is where its path says, with
its content. -/
theorem writeBelow_eq_ok {file : GeneratedFile} {out path : String} {device : Device}
    {tree written : Tree} (h : file.writeBelow out device tree = (written, .ok path)) :
    path = file.pathBelow out ∧ written.read? path = some file.bytes := by
  obtain ⟨-, rfl, grown, -, hwrite⟩ := (writeBelow_eq_ok_iff _ _ _ _ _ _).mp h
  exact ⟨rfl, Tree.read?_of_fillFile ((Tree.writeFile_eq_ok_iff _ _ _ _ _ _).mp hwrite).2.2⟩

end GeneratedFile

end Protogen
