import Protogen.Proofs.Files.Replacement

/-!
# What a failed write leaves

A write that fails before the file is open has at most made directories on the way to it. One that
fails later leaves a beginning of what was to be written, in place of what was in the file before.
Either way all that is not as it was lies inside the output directory or is met on the way to it,
unless a link below that directory leads out.
-/

namespace Protogen

namespace Files

theorem onlySlashes_pieces {name : String} (h : ¬Escapes name) :
    onlySlashes (pieces name) = false := by
  obtain ⟨hname, hrelative, -⟩ := (not_escapes_iff name).mp h
  obtain ⟨piece, rest, hpieces⟩ := List.exists_cons_of_ne_nil (pieces_ne_nil name)
  have hpiece : piece ≠ "" := by
    rintro rfl
    have hrest : rest = [] := by
      by_contra hrest
      have habsolute := (isAbsolute_iff name).mpr ⟨rest, hrest, hpieces⟩
      rw [hrelative] at habsolute
      exact Bool.noConfusion habsolute
    exact hname (by rw [← intercalate_pieces name, hpieces, hrest]; rfl)
  simp [onlySlashes, hpieces, hpiece]

/-- A path is absolute if a beginning of it that ends in a name is. -/
theorem isAbsolute_of_pieces {above path piece : String} {lead below : List String}
    (hpiece : piece ≠ "") (habove : pieces above = lead ++ [piece])
    (hpath : pieces path = lead ++ piece :: below) : isAbsolute above = isAbsolute path := by
  rw [Bool.eq_iff_iff, isAbsolute_iff, isAbsolute_iff, habove, hpath]
  cases lead <;> simp [hpiece]

/-- A beginning of the pieces that ends in a name has a beginning of the components. -/
theorem components_of_pieces {above path piece : String} {lead below : List String}
    (hpiece : piece ≠ "") (habove : pieces above = lead ++ [piece])
    (hpath : pieces path = lead ++ [piece] ++ below) :
    components path = components above ++ below.filterMap Component.ofPiece? := by
  have hsome : lead ++ [piece] ≠ [""] := by
    intro heq
    have hlast := (List.append_inj' (heq.trans (List.nil_append [""]).symm) rfl).2
    exact hpiece (List.singleton_inj.mp hlast)
  rw [components_eq, components_eq, habove, hpath, frontOf_append_of_ne (by simp) hsome,
    List.filterMap_append, List.append_assoc]

namespace Tree

/-- Inside the directory that the path leads to, or on the way to it. -/
def LiesWithin (tree : Tree) (path : String) (location : Location) : Prop :=
  (∃ directory, tree.directoryOf (start tree.workingDirectory path) (pieces path) =
    .ok directory ∧ directory <+: location) ∨
  ∃ above rest, components path = components above ++ rest ∧
    tree.locate above = .ok (.existing location)

/-- No link below the directory that the path leads to. -/
def HoldsNoLinksBelow (tree : Tree) (path : String) : Prop :=
  ∀ directory, tree.directoryOf (start tree.workingDirectory path) (pieces path) =
    .ok directory → tree.HoldsNoLinks directory

/-- Without links and steps upwards a way leads down. -/
theorem isPrefix_of_locateWith {tree : Tree}
    {follow : Location → List String → Except OsError Place} {here location : Location}
    {names : List String} (hlinks : tree.HoldsNoLinks here) (hparent : ".." ∉ names)
    (h : tree.locateWith follow here names = .ok (.existing location)) : here <+: location := by
  induction names generalizing here with
  | nil =>
      obtain rfl := Place.existing.inj (Except.ok.inj h)
      exact List.prefix_refl here
  | cons piece names ih =>
      obtain ⟨hpiece, hnames⟩ := not_or.mp (mt List.mem_cons.mpr hparent)
      rcases piece_cases piece with ⟨name, hname⟩ | hup | ⟨hnormal, hup⟩
      · rw [locateWith_normal_eq_existing_iff _ _ _ _ hname] at h
        obtain ⟨-, -, ⟨mode, -, h⟩ | ⟨target, hentry, -⟩ | ⟨mode, content, -, -, rfl⟩⟩ := h
        · exact (List.prefix_append here [name]).trans (ih (hlinks.inside name) hnames h)
        · exact absurd hentry (hlinks [name] target)
        · exact List.prefix_append here [name]
      · exact absurd ((ofPiece?_eq_parent_iff piece).mp hup).symm hpiece
      · rw [locateWith_skip _ _ _ _ hnormal hup] at h
        exact ih hlinks hnames h

section

variable {tree : Tree} {out : String} {location : Location}

/-- What a path below a directory leads to lies inside it. -/
theorem liesWithin_of_below {above names : List String} {path : String}
    (habove : pieces out = above ∨ pieces out = above ++ [""])
    (hpath : isAbsolute path = isAbsolute out) (hpieces : pieces path = above ++ names)
    (hnames : onlySlashes names = false) (hparent : ".." ∉ names)
    (hlinks : tree.HoldsNoLinksBelow out) (h : tree.locate path = .ok (.existing location)) :
    tree.LiesWithin out location := by
  have hstart : start tree.workingDirectory path = start tree.workingDirectory out := by
    rw [start, start, hpath]
  rw [locate_eq_ok_iff, hpieces, hstart] at h
  obtain ⟨directory, hdirectory⟩ := exists_directory_of_locateFrom hnames h.2
  have hof := (directoryOf_pieces_iff tree _ directory habove).mpr hdirectory
  obtain ⟨left, hleft⟩ := exists_locateFrom_of_directory hdirectory
  obtain ⟨follow, hfollow⟩ := exists_follow tree left
  rw [hleft names hnames, hfollow] at h
  exact .inl ⟨directory, hof, isPrefix_of_locateWith (hlinks directory hof) hparent h.2⟩

theorem liesWithin_of_join {name : String} (hname : ¬Escapes name)
    (hlinks : tree.HoldsNoLinksBelow out)
    (h : tree.locate (join out name) = .ok (.existing location)) :
    tree.LiesWithin out location := by
  obtain ⟨-, hrelative, hparent⟩ := (not_escapes_iff name).mp hname
  obtain ⟨above, habove, -, hjoin⟩ := exists_pieces_join out
  exact liesWithin_of_below habove (isAbsolute_join out hrelative) (hjoin name hrelative)
    (onlySlashes_pieces hname) hparent hlinks h

/-- The directories above a path below another one lie inside that one or on the way to it. -/
theorem liesWithin_of_mem_ancestors {name directory : String} (hname : ¬Escapes name)
    (hlinks : tree.HoldsNoLinksBelow out) (hmem : directory ∈ ancestors (join out name))
    (h : tree.locate directory = .ok (.existing location)) : tree.LiesWithin out location := by
  obtain ⟨-, hrelative, hparent⟩ := (not_escapes_iff name).mp hname
  have habsolute := isAbsolute_join out hrelative
  obtain ⟨above, habove, -, hjoin⟩ := exists_pieces_join out
  have hpath := hjoin name hrelative
  rcases exists_pieces_of_mem_ancestors hmem with ⟨rfl, hroot⟩ |
    ⟨lead, piece, below, hpiece, hdirectory, hpieces⟩
  · refine .inr ⟨"/", (pieces out).filterMap Component.ofPiece?, ?_, h⟩
    rw [components, frontComponents, if_pos (habsolute ▸ hroot)]
    rfl
  · have hfront : lead ++ [piece] <+: pieces (join out name) := by simp [hpieces]
    have hover : above <+: pieces (join out name) := by simp [hpath]
    have hwithin (hshort : lead ++ [piece] <+: above) : tree.LiesWithin out location := by
      obtain ⟨more, hmore⟩ := hshort
      obtain ⟨rest, hrest⟩ : ∃ rest, pieces out = lead ++ [piece] ++ rest := by
        rcases habove with habove | habove
        · exact ⟨more, by rw [habove, hmore]⟩
        · exact ⟨more ++ [""], by rw [habove, ← hmore, List.append_assoc]⟩
      exact .inr ⟨directory, _, components_of_pieces hpiece hdirectory hrest, h⟩
    rcases List.prefix_or_prefix_of_prefix hfront hover with hshort | ⟨names, hnames⟩
    · exact hwithin hshort
    · by_cases hnil : names = []
      · exact hwithin (by simp [← hnames, hnil])
      · have hlast : names.getLast? = some piece := by
          have hends := congrArg List.getLast? hnames
          rw [List.getLast?_append_of_ne_nil above hnil, List.getLast?_concat] at hends
          exact hends
        have hsolid : onlySlashes names = false := by
          rw [onlySlashes, List.all_eq_false]
          exact ⟨piece, List.mem_of_getLast? hlast, by simpa using hpiece⟩
        have hbelow : pieces name = names ++ below := by
          have hsame : above ++ pieces name = above ++ (names ++ below) := by
            rw [← hpath, hpieces, ← List.append_assoc, hnames, List.append_assoc]
            rfl
          exact List.append_cancel_left hsame
        have hdown : ".." ∉ names := fun hup => hparent (by simp [hbelow, hup])
        refine liesWithin_of_below habove ?_ (hdirectory.trans hnames.symm) hsolid hdown hlinks h
        rw [isAbsolute_of_pieces hpiece hdirectory hpieces, habsolute]

end

/-- What is new in a grown tree lies inside the output directory or on the way to it, as long as
the directories stay where they are. -/
theorem GrowsBy.liesWithin {tree grown after : Tree} {out name : String} {location : Location}
    (hgrown : tree.GrowsBy grown (ancestors (join out name)).tail) (hname : ¬Escapes name)
    (hlinks : after.HoldsNoLinksBelow out)
    (hway : ∀ {directory place}, grown.locate directory = .ok (.existing place) →
      after.locate directory = .ok (.existing place))
    (h : grown.get? location ≠ tree.get? location) : after.LiesWithin out location := by
  rcases hold : tree.get? location with _ | entry
  · obtain ⟨entry, hentry⟩ := Option.ne_none_iff_exists'.mp (hold ▸ h)
    obtain ⟨-, directory, hmem, hplace⟩ := hgrown.added location entry hold hentry
    exact liesWithin_of_mem_ancestors hname hlinks (List.mem_of_mem_tail hmem) (hway hplace)
  · exact absurd ((hgrown.get? location entry hold).trans hold.symm) h

/-- So does a file that is filled below the output directory. -/
theorem GrowsBy.liesWithin_fillFile {tree grown filled : Tree} {out name : String} {mode : Nat}
    {content : List UInt8} {location : Location}
    (hgrown : tree.GrowsBy grown (ancestors (join out name)).tail) (hname : ¬Escapes name)
    (hfill : grown.fillFile mode (join out name) content = .ok filled)
    (hlinks : filled.HoldsNoLinksBelow out)
    (h : filled.get? location ≠ tree.get? location) : filled.LiesWithin out location := by
  obtain ⟨target, mode', hput, -, hplace, -⟩ := exists_target_of_fillFile hfill
  by_cases hsame : location = target
  · subst hsame
    exact liesWithin_of_join hname hlinks hplace
  · rw [hput, get?_put_of_ne grown _ hsame] at h
    exact hgrown.liesWithin hname hlinks (locate_of_fillFile hfill) h

end Tree

end Files

open Files

namespace GeneratedFile

variable {file : GeneratedFile} {out : String} {device : Device} {tree after : Tree}

/-- Only a name that escapes is refused as one. -/
theorem outside_iff_escapes (file : GeneratedFile) (out : String) (device : Device)
    (tree : Tree) :
    (∃ e, (file.writeBelow out device tree).2 = .error e ∧
      e.causeMessage = FileCause.outside.message) ↔ Escapes file.name := by
  rcases file.writeBelow_cases out device tree with ⟨hescapes, hwrite⟩ |
    ⟨hinside, grown, -, hwrite⟩
  · exact iff_of_true ⟨_, by rw [hwrite], rfl⟩ hescapes
  · refine iff_of_false ?_ hinside
    rintro ⟨e, herror, hmessage⟩
    rcases hwrite with ⟨e', cause, hcause, hwrite⟩ | ⟨filled, -, hwrite⟩ |
      ⟨room, fault, filled, -, -, -, hwrite⟩ <;> rw [hwrite] at herror
    · obtain rfl := Except.error.inj herror
      exact cause.message_ne_outside (hcause.symm.trans hmessage)
    · cases herror
    · obtain rfl := Except.error.inj herror
      exact fault.message_ne_outside hmessage

/-- A write that fails has made directories, or the device has failed and the file is left with
what it has taken. -/
theorem left_of_writeBelow_error {e : ArtifactError}
    (h : file.writeBelow out device tree = (after, .error e)) :
    tree.GrowsTowards after (file.pathBelow out) ∨
      ∃ room fault target mode, device.room? = some (room, fault) ∧ room < file.bytes.length ∧
        e = .file (file.pathBelow out) (.failed fault) ∧
        tree.Replaces after (file.pathBelow out) (file.bytes.take room) target mode := by
  rcases file.writeBelow_cases out device tree with ⟨-, hwrite⟩ | ⟨-, grown, hgrown, hwrite⟩
  · obtain ⟨rfl, -⟩ := Prod.mk.inj (hwrite.symm.trans h)
    exact .inl (.refl tree _)
  · rcases hwrite with ⟨e', cause, -, hwrite⟩ | ⟨filled, -, hwrite⟩ |
      ⟨room, fault, filled, hdevice, hroom, hfill, hwrite⟩ <;>
      obtain ⟨rfl, herror⟩ := Prod.mk.inj (hwrite.symm.trans h)
    · exact .inl hgrown.growsTowards
    · cases herror
    · obtain ⟨target, mode, hreplaces⟩ := hgrown.replaces hfill
      exact .inr ⟨room, fault, target, mode, hdevice, hroom, (Except.error.inj herror).symm,
        hreplaces⟩

/-- However a write ends, what is not as it was lies inside the output directory or on the way to
it. -/
theorem liesWithin_of_writeBelow {result : Except ArtifactError String}
    (h : file.writeBelow out device tree = (after, result)) (hlinks : after.HoldsNoLinksBelow out)
    {location : Location} (hchanged : after.get? location ≠ tree.get? location) :
    after.LiesWithin out location := by
  rcases file.writeBelow_cases out device tree with ⟨-, hwrite⟩ |
    ⟨hinside, grown, hgrown, hwrite⟩
  · obtain ⟨rfl, -⟩ := Prod.mk.inj (hwrite.symm.trans h)
    exact absurd rfl hchanged
  · rcases hwrite with ⟨e, cause, -, hwrite⟩ | ⟨filled, hfill, hwrite⟩ |
      ⟨room, fault, filled, -, -, hfill, hwrite⟩ <;>
      obtain ⟨rfl, -⟩ := Prod.mk.inj (hwrite.symm.trans h)
    · exact hgrown.liesWithin hinside hlinks id hchanged
    · exact hgrown.liesWithin_fillFile hinside hfill hlinks hchanged
    · exact hgrown.liesWithin_fillFile hinside hfill hlinks hchanged

/-- A write refuses a name with an error of its own, touching nothing, if and only if the name
escapes, and it looks any other name up below the output directory. If it fails then, the tree has
grown by directories that were missing on the way to the file and is as it was otherwise, or the
device has failed and besides the file holds what was taken of its content. With no links below the
output directory, all of this lies inside it or on the way to it. -/
theorem write_confined (file : GeneratedFile) (out : String) (device : Device) (tree : Tree)
    (hout : out ≠ "") :
    ((∃ e, (file.writeBelow out device tree).2 = .error e ∧
        e.causeMessage =
          "generated file name must be a relative path inside the output directory") ↔
      Escapes file.name) ∧
    (Escapes file.name → file.writeBelow out device tree =
      (tree, .error (.file (file.pathBelow out) .outside))) ∧
    (¬Escapes file.name →
      components (file.pathBelow out) =
        components out ++ (components file.name).filter Component.isNormal) ∧
    (∀ after e, file.writeBelow out device tree = (after, .error e) →
      tree.GrowsTowards after (file.pathBelow out) ∨
        ∃ room fault target mode, device.room? = some (room, fault) ∧ room < file.bytes.length ∧
          e = .file (file.pathBelow out) (.failed fault) ∧
          tree.Replaces after (file.pathBelow out) (file.bytes.take room) target mode) ∧
    ∀ after result, file.writeBelow out device tree = (after, result) →
      after.HoldsNoLinksBelow out →
        ∀ location, after.get? location ≠ tree.get? location → after.LiesWithin out location := by
  refine ⟨file.outside_iff_escapes out device tree, fun hescapes => ?_, fun hinside => ?_,
    fun after e => left_of_writeBelow_error,
    fun after result h hlinks location => liesWithin_of_writeBelow h hlinks⟩
  · have hinside : ¬staysInside file.name = true := by simpa [staysInside_iff] using hescapes
    rw [writeBelow, if_neg hinside]
  · obtain ⟨-, hrelative, hparent⟩ := (not_escapes_iff file.name).mp hinside
    rw [pathBelow, components_join hout hrelative, filter_components_eq hparent]

/-- A tree with notes next to where files are written. -/
def notesTree : Tree where
  entries := [(["work"], .directory 0o755), (["work", "out"], .directory 0o700),
    (["work", "out", "notes"], .file 0o600 (Text.utf8Bytes "to do"))]
  workingDirectory := ["work"]

def notesFile : GeneratedFile := ⟨some "notes", none, some "done", none⟩

/-- The directory that was made before the device refused to open the file stays next to the
notes, and of the file that takes the place of the notes there is the first half. -/
theorem failed_notes_confined :
    let full : Device := ⟨[("out/a/Track", .noSpace)], none⟩
    let grown := notesTree.put ["work", "out", "a"] (.directory directoryMode)
    let cut := notesTree.put ["work", "out", "notes"] (.file 0o600 (Text.utf8Bytes "do"))
    "out" ≠ "" ∧
    ((trackFile "a/Track").writeBelow "out" full notesTree =
        (grown, .error (.file "out/a/Track" (.failed .noSpace))) ∧
      components "out/a/Track" = [.normal "out", .normal "a", .normal "Track"] ∧
      notesTree.GrowsTowards grown "out/a/Track" ∧
      grown.LiesWithin "out" ["work", "out", "a"]) ∧
    notesFile.writeBelow "out" (.failing 2 .noSpace) notesTree =
        (cut, .error (.file "out/notes" (.failed .noSpace))) ∧
      ∃ target mode, notesTree.Replaces cut "out/notes" (Text.utf8Bytes "do") target mode := by
  intro full grown cut
  have hout : "out" ≠ "" := by decide
  have hgrown : (trackFile "a/Track").writeBelow "out" full notesTree =
      (grown, .error (.file "out/a/Track" (.failed .noSpace))) := by decide +kernel
  have hcut : notesFile.writeBelow "out" (.failing 2 .noSpace) notesTree =
      (cut, .error (.file "out/notes" (.failed .noSpace))) := by decide +kernel
  refine ⟨hout, ⟨hgrown, ?_⟩, hcut, ?_⟩
  · obtain ⟨-, -, hcomponents, hfailed, hwithin⟩ :=
      (trackFile "a/Track").write_confined "out" full notesTree hout
    have hinside : ¬Escapes (trackFile "a/Track").name := by
      rw [← staysInside_iff]
      decide +kernel
    have hlinks : grown.HoldsNoLinksBelow "out" := fun directory _ =>
      Tree.holdsNoLinks_of_entries (by decide +kernel) directory
    refine ⟨(hcomponents hinside).trans (by decide +kernel), ?_,
      hwithin _ _ hgrown hlinks _ (by decide +kernel)⟩
    rcases hfailed _ _ hgrown with hgrows | ⟨_, _, _, _, hdevice, -⟩
    · exact hgrows
    · exact absurd hdevice.symm (Option.some_ne_none _)
  · obtain ⟨-, -, -, hfailed, -⟩ :=
      notesFile.write_confined "out" (.failing 2 .noSpace) notesTree hout
    rcases hfailed _ _ hcut with hgrows | ⟨room, fault, target, mode, hdevice, -, -, hreplaces⟩
    · have hkept := hgrows.get? ["work", "out", "notes"] (.file 0o600 (Text.utf8Bytes "to do"))
        (by decide +kernel)
      exact absurd hkept (by decide +kernel)
    · obtain ⟨rfl, -⟩ := Prod.mk.inj (Option.some.inj hdevice)
      exact ⟨target, mode, hreplaces⟩

/-- The notes are in a directory of their own, which a link below the output directory leads to. -/
def sharedTree : Tree where
  entries := [(["work"], .directory 0o755), (["work", "out"], .directory 0o755),
    (["work", "out", "shared"], .link "../notes"), (["work", "notes"], .directory 0o755)]
  workingDirectory := ["work"]

/-- A file cannot bear a name with a slash at its end. -/
def slashedFile (name : String) : GeneratedFile := ⟨some (name ++ "/"), none, some "", none⟩

/-- A full device takes notes away that were there before, and through a link a directory is left
outside the output directory. -/
theorem failed_writes_spill :
    (∃ after e, notesFile.writeBelow "out" (.failing 0 .noSpace) notesTree = (after, .error e) ∧
      notesTree.read? "out/notes" = some (Text.utf8Bytes "to do") ∧
      after.read? "out/notes" = some [] ∧ ¬notesTree.GrowsTowards after "out/notes") ∧
    ∃ after e directory,
      (slashedFile "shared/a/Track").writeBelow "out" .sound sharedTree = (after, .error e) ∧
      after.directoryOf (Tree.start after.workingDirectory "out") (pieces "out") =
        .ok directory ∧
      sharedTree.get? ["work", "notes", "a"] = none ∧
      after.get? ["work", "notes", "a"] = some (.directory directoryMode) ∧
      ¬directory <+: ["work", "notes", "a"] := by
  refine ⟨⟨notesTree.put ["work", "out", "notes"] (.file 0o600 []),
      .file "out/notes" (.failed .noSpace), by decide +kernel, by decide +kernel,
      by decide +kernel, fun h => ?_⟩,
    sharedTree.put ["work", "notes", "a"] (.directory directoryMode),
    .file "out/shared/a/Track/" (.failed .isDirectory), ["work", "out"], by decide +kernel,
    by decide +kernel, by decide +kernel, by decide +kernel, by decide⟩
  have hkept := h.get? ["work", "out", "notes"] (.file 0o600 (Text.utf8Bytes "to do"))
    (by decide +kernel)
  exact absurd hkept (by decide +kernel)

end GeneratedFile

end Protogen
