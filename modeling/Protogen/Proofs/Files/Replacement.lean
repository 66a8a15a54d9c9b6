import Protogen.Proofs.Files.Separation

/-!
# Replacing a file

A write that succeeds made the directories that were missing on the way, each of which a path
above the file leads to, and put the file where its own path leads. So the same write, made once
more, finds a directory under every one of these paths and a file under the last one: it makes
nothing and puts the same file in the same place.
-/

namespace Protogen

namespace Files

/-- A path up to its last name, and the slashes behind it. -/
theorem exists_pieces_of_last {path last : String} {above : List String}
    (h : (pieces path).reverse.dropWhile String.isEmpty = last :: above) :
    ∃ slashes, onlySlashes slashes = true ∧ pieces path = above.reverse ++ last :: slashes := by
  refine ⟨((pieces path).reverse.takeWhile String.isEmpty).reverse, ?_, ?_⟩
  · rw [onlySlashes, List.all_reverse]
    exact List.all_takeWhile
  · have hsplit : (pieces path).reverse.takeWhile String.isEmpty ++ last :: above =
        (pieces path).reverse := by
      rw [← h, List.takeWhile_append_dropWhile]
    simpa using (congrArg List.reverse hsplit).symm

namespace Tree

theorem put_put (tree : Tree) (location : Location) (entry entry' : Entry) :
    (tree.put location entry).put location entry' = tree.put location entry' := by
  simp [put, List.filter_filter]

/-- What a file that is filled does to the tree: the path leads to the target, which is new or
keeps the mode it had as a file, and apart from it there are only new directories, on the way to
the path. -/
structure Replaces (tree written : Tree) (path : String) (content : List UInt8)
    (target : Location) (mode : Nat) : Prop where
  workingDirectory : written.workingDirectory = tree.workingDirectory
  place : written.locate path = .ok (.existing target)
  file : written.get? target = some (.file mode content)
  mode_kept : (tree.get? target = none ∧ mode = fileMode) ∨
    ∃ old, tree.get? target = some (.file mode old)
  others : ∀ location entry, location ≠ target → tree.get? location = some entry →
    written.get? location = some entry
  added : ∀ location entry, location ≠ target → tree.get? location = none →
    written.get? location = some entry → entry = .directory directoryMode ∧
      ∃ directory, LeadsTowards directory path ∧
        written.locate directory = .ok (.existing location)

/-! ### Directories that are there -/

theorem isDirectory_iff (tree : Tree) (path : String) :
    tree.isDirectory path = true ↔ checkPath path = .ok () ∧ ∃ directory,
      tree.locateFrom linkLimit (start tree.workingDirectory path) (pieces path ++ ["."]) =
        .ok (.existing directory) := by
  simp only [isDirectory, Bool.and_eq_true, ← directoryOf_eq_ok_iff]
  refine and_congr ?_ ?_
  · rcases checkPath path with e | ⟨⟩ <;> simp [Except.isOk, Except.toBool]
  · rcases tree.directoryOf (start tree.workingDirectory path) (pieces path) with e | directory <;>
      simp [Except.isOk, Except.toBool]

theorem locateWith_slashes (tree : Tree)
    (follow : Location → List String → Except OsError Place) (here : Location)
    {slashes : List String} (h : onlySlashes slashes = true) (rest : List String) :
    tree.locateWith follow here (slashes ++ rest) = tree.locateWith follow here rest := by
  induction slashes with
  | nil => rfl
  | cons piece slashes ih =>
      simp only [onlySlashes, List.all_cons, Bool.and_eq_true, String.isEmpty_iff] at h
      obtain ⟨rfl, hslashes⟩ := h
      exact ih hslashes

theorem isDirectory_of_makeDirectory {tree made : Tree} {device : Device} {path : String}
    (h : tree.makeDirectory device path = .ok made) : made.isDirectory path = true := by
  obtain ⟨location, hnew, -, rfl⟩ := (makeDirectory_eq_ok_iff _ _ _ _).mp h
  obtain ⟨last, above, directory, name, hlast, hname, hcheck, hdirectory, hshort, hfree, rfl⟩ :=
    newLocation_eq_ok hnew
  obtain ⟨slashes, hslashes, hpieces⟩ := exists_pieces_of_last hlast
  have hgrown := locateFrom_of_keeps (keeps_put (.directory directoryMode) hfree) _ _ _ hdirectory
  obtain ⟨left, hleft⟩ := exists_locateFrom_of_directory hgrown
  obtain ⟨follow, hfollow⟩ :=
    exists_follow (tree.put (directory ++ [name]) (.directory directoryMode)) left
  rw [isDirectory_iff, hpieces, workingDirectory_put, List.append_assoc, List.cons_append,
    hleft _ (by simp [onlySlashes]), hfollow]
  refine ⟨hcheck, directory ++ [name], ?_⟩
  rw [locateWith_normal_eq_existing_iff _ _ _ _ hname, locateWith_slashes _ _ _ hslashes]
  exact ⟨by simp [onlySlashes], hshort,
    .inl ⟨directoryMode, get?_put_self tree _ (ne_nil_of_get?_eq_none hfree), rfl⟩⟩

/-- Nothing can be made under a path that leads to a directory. -/
theorem makeDirectory_of_isDirectory {tree : Tree} {path : String}
    (h : tree.isDirectory path = true) (device : Device) :
    tree.makeDirectory device path = .error .alreadyExists := by
  obtain ⟨hcheck, location, hlocation⟩ := (isDirectory_iff tree path).mp h
  have hnew : tree.newLocation path = .error .alreadyExists := by
    rw [newLocation, hcheck]
    rcases hlast : (pieces path).reverse.dropWhile String.isEmpty with _ | ⟨last, above⟩
    · rfl
    · obtain ⟨slashes, -, hpieces⟩ := exists_pieces_of_last hlast
      have hmore : onlySlashes (last :: (slashes ++ ["."])) = false := by simp [onlySlashes]
      rw [hpieces, List.append_assoc, List.cons_append] at hlocation
      obtain ⟨directory, hdirectory⟩ := exists_directory_of_locateFrom hmore hlocation
      obtain ⟨left, hleft⟩ := exists_locateFrom_of_directory hdirectory
      obtain ⟨follow, hfollow⟩ := exists_follow tree left
      rw [hleft _ hmore, hfollow] at hlocation
      have hof := (directoryOf_eq_ok_iff tree _ directory _).mpr hdirectory
      rcases hname : Component.ofPiece? last with _ | component
      · simp [bind, Except.bind, hof, hname]
      · cases component with
        | root => simp [bind, Except.bind, hof, hname]
        | current => simp [bind, Except.bind, hof, hname]
        | parent => simp [bind, Except.bind, hof, hname]
        | normal name =>
            rw [locateWith_normal_eq_existing_iff _ _ _ _ hname] at hlocation
            obtain ⟨-, hshort, hentry⟩ := hlocation
            have hthere : (tree.get? (directory ++ [name])).isSome = true := by
              rcases hentry with ⟨mode, hentry, -⟩ | ⟨target, hentry, -⟩ |
                ⟨mode, content, hentry, -⟩ <;> simp [hentry]
            simp [bind, Except.bind, hof, hname, hshort, hthere]
  rw [makeDirectory, hnew]
  rfl

theorem makeDirectories_of_isDirectory {tree : Tree} {path : String}
    (h : tree.isDirectory path = true) (device : Device) (above : List String) :
    tree.makeDirectories device (path :: above) = (tree, .ok ()) := by
  simp [makeDirectories, makeDirectory_of_isDirectory h, h]

theorem isDirectory_of_makeDirectories {tree grown : Tree} {device : Device} {path : String}
    {above : List String} (h : tree.makeDirectories device (path :: above) = (grown, .ok ())) :
    grown.isDirectory path = true := by
  have hthere {tree' : Tree} {e : OsError}
      (h : (tree', if tree'.isDirectory path then Except.ok () else .error e) =
        (grown, .ok ())) : grown.isDirectory path = true := by
    obtain ⟨rfl, hok⟩ := Prod.mk.inj h
    by_contra hnot
    simp [hnot] at hok
  rw [makeDirectories] at h
  split at h
  · rename_i made hmade
    obtain ⟨rfl, -⟩ := Prod.mk.inj h
    exact isDirectory_of_makeDirectory hmade
  · split at h
    · split at h
      · rename_i made hmade
        obtain ⟨rfl, -⟩ := Prod.mk.inj h
        exact isDirectory_of_makeDirectory hmade
      · exact hthere h
    · rename_i hfailed
      exact absurd h (hfailed grown)
  · exact hthere h

/-! ### Filling again -/

theorem fillFile_again {tree filled : Tree} {mode : Nat} {path : String} {content : List UInt8}
    (h : tree.fillFile mode path content = .ok filled) :
    filled.fillFile mode path content = .ok filled := by
  obtain ⟨target, mode', rfl, hroot, hplace, -⟩ := exists_target_of_fillFile h
  simp only [fillFile, hplace, get?_put_self tree _ hroot, put_put]

section

variable {tree filled : Tree} {mode : Nat} {path : String} {content : List UInt8}

/-- A way that leads to something leads there after a file was filled. -/
theorem locateFrom_of_fillFile (h : tree.fillFile mode path content = .ok filled)
    {links : Nat} {here location : Location} {rest : List String}
    (hplace : tree.locateFrom links here rest = .ok (.existing location)) :
    filled.locateFrom links here rest = .ok (.existing location) := by
  obtain ⟨target, mode', rfl, -, -, ⟨hfree, -⟩ | ⟨old, hfile⟩⟩ := exists_target_of_fillFile h
  · exact locateFrom_of_keeps (keeps_put _ hfree) _ _ _ hplace
  · rwa [locateFrom_put_file tree hfile]

theorem workingDirectory_of_fillFile (h : tree.fillFile mode path content = .ok filled) :
    filled.workingDirectory = tree.workingDirectory := by
  obtain ⟨target, mode', rfl, -⟩ := exists_target_of_fillFile h
  rfl

theorem locate_of_fillFile (h : tree.fillFile mode path content = .ok filled)
    {other : String} {location : Location} (hplace : tree.locate other = .ok (.existing location)) :
    filled.locate other = .ok (.existing location) := by
  rw [locate_eq_ok_iff] at hplace ⊢
  rw [workingDirectory_of_fillFile h]
  exact ⟨hplace.1, locateFrom_of_fillFile h hplace.2⟩

theorem isDirectory_of_fillFile (h : tree.fillFile mode path content = .ok filled)
    {above : String} (habove : tree.isDirectory above = true) :
    filled.isDirectory above = true := by
  rw [isDirectory_iff] at habove ⊢
  rw [workingDirectory_of_fillFile h]
  exact habove.imp_right fun ⟨directory, hway⟩ => ⟨directory, locateFrom_of_fillFile h hway⟩

end

theorem makeDirectories_again {tree grown filled : Tree} {device : Device} {paths : List String}
    (hgrown : tree.makeDirectories device paths = (grown, .ok ())) {mode : Nat} {path : String}
    {content : List UInt8} (hfilled : grown.fillFile mode path content = .ok filled) :
    filled.makeDirectories device paths = (filled, .ok ()) := by
  cases paths with
  | nil => rfl
  | cons above paths =>
      have hthere := isDirectory_of_makeDirectories hgrown
      exact makeDirectories_of_isDirectory (isDirectory_of_fillFile hfilled hthere) device paths

/-- A file in a tree that has grown by directories on the way to it. -/
theorem GrowsBy.replaces {tree grown filled : Tree} {path : String} {content : List UInt8}
    (hgrown : tree.GrowsBy grown (ancestors path).tail)
    (hfilled : grown.fillFile fileMode path content = .ok filled) :
    ∃ target mode, tree.Replaces filled path content target mode := by
  obtain ⟨target, mode, hput, hroot, hplace, hold⟩ := exists_target_of_fillFile hfilled
  have hfile : filled.get? target = some (.file mode content) := by
    rw [hput, get?_put_self _ _ hroot]
  have hother {location : Location} (hne : location ≠ target) :
      filled.get? location = grown.get? location := by
    rw [hput, get?_put_of_ne _ _ hne]
  refine ⟨target, mode, ?_, hplace, hfile, ?_, ?_, ?_⟩
  · rw [workingDirectory_of_fillFile hfilled, hgrown.workingDirectory]
  · -- What is new in the grown tree is a directory, so a file in it was there before.
    rcases hentry : tree.get? target with _ | entry
    · rcases hold with ⟨-, hmode⟩ | ⟨old, hfile⟩
      · exact .inl ⟨rfl, hmode⟩
      · cases (hgrown.added _ _ hentry hfile).1
    · have hkept := hgrown.get? _ _ hentry
      rcases hold with ⟨hfree, -⟩ | ⟨old, hfile⟩
      · cases hfree.symm.trans hkept
      · exact .inr ⟨old, hkept.symm.trans hfile⟩
  · intro location entry hne hentry
    rw [hother hne]
    exact hgrown.get? _ _ hentry
  · intro location entry hne hfree hentry
    rw [hother hne] at hentry
    obtain ⟨hdirectory, directory, hmem, hway⟩ := hgrown.added _ _ hfree hentry
    exact ⟨hdirectory, directory, leadsTowards_of_mem_ancestors hmem,
      locate_of_fillFile hfilled hway⟩

end Tree

end Files

open Files

namespace GeneratedFile

/-- A write that succeeds replaces one file, and making it once more changes nothing. -/
theorem write_replaces_one_file {file : GeneratedFile} {out path : String} {device : Device}
    {tree written : Tree} (h : file.writeBelow out device tree = (written, .ok path)) :
    path = join out file.name ∧ written.read? path = some file.bytes ∧
      (∃ target mode, tree.Replaces written path file.bytes target mode) ∧
      file.writeBelow out device written = (written, .ok path) := by
  obtain ⟨hinside, rfl, grown, hgrown, hwritten⟩ := (writeBelow_eq_ok_iff _ _ _ _ _ _).mp h
  obtain ⟨hpermits, htake, hfilled⟩ := (Tree.writeFile_eq_ok_iff _ _ _ _ _ _).mp hwritten
  have hgrows := tree.growsBy_ancestors device (file.pathBelow out)
  rw [hgrown] at hgrows
  refine ⟨rfl, Tree.read?_of_fillFile hfilled, hgrows.replaces hfilled, ?_⟩
  refine (writeBelow_eq_ok_iff _ _ _ _ _ _).mpr
    ⟨hinside, rfl, written, Tree.makeDirectories_again hgrown hfilled, ?_⟩
  exact (Tree.writeFile_eq_ok_iff _ _ _ _ _ _).mpr ⟨hpermits, htake, Tree.fillFile_again hfilled⟩

/-- The output directory is a link, and below it is an older, longer file. -/
def linkedTree : Tree where
  entries := [(["work"], .directory 0o755), (["work", "out"], .link "/srv/gen"),
    (["srv"], .directory 0o755), (["srv", "gen"], .directory 0o700),
    (["srv", "gen", "v1"], .directory 0o755),
    (["srv", "gen", "v1", "Track.pb.rs"], .file 0o600 (Text.utf8Bytes "a longer first version"))]
  workingDirectory := ["work"]

def trackFile (name : String) : GeneratedFile := ⟨some name, none, some "short", none⟩

/-- Behind the link the older file is replaced, and a directory is made for a new one. There is
just enough room for what is written. -/
theorem tracks_written_behind_link :
    let short := Text.utf8Bytes "short"
    (∃ target mode, linkedTree.Replaces
      (linkedTree.put ["srv", "gen", "v1", "Track.pb.rs"] (.file 0o600 short))
      "out/v1/Track.pb.rs" short target mode) ∧
    ∃ target mode, linkedTree.Replaces
      ((linkedTree.put ["srv", "gen", "v2"] (.directory 0o755)).put
        ["srv", "gen", "v2", "Track.pb.rs"] (.file 0o640 short))
      "out/v2/Track.pb.rs" short target mode := by
  intro short
  have holder : (trackFile "v1/Track.pb.rs").writeBelow "out" (.failing 5 .noSpace) linkedTree =
      (linkedTree.put ["srv", "gen", "v1", "Track.pb.rs"] (.file 0o600 short),
        .ok "out/v1/Track.pb.rs") := by decide +kernel
  have hnew : (trackFile "v2/Track.pb.rs").writeBelow "out" (.failing 5 .noSpace) linkedTree =
      ((linkedTree.put ["srv", "gen", "v2"] (.directory 0o755)).put
        ["srv", "gen", "v2", "Track.pb.rs"] (.file 0o640 short),
        .ok "out/v2/Track.pb.rs") := by decide +kernel
  exact ⟨(write_replaces_one_file holder).2.2.1, (write_replaces_one_file hnew).2.2.1⟩

end GeneratedFile

end Protogen
