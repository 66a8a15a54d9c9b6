import Protogen.Proofs.Generator.Header
import Protogen.Proofs.Name.Artifact
import Protogen.Proofs.Pipeline.Stages

/-!
# Where runs leave their artifacts

A run with the built-in generator writes one file, at the place that belongs to the package and
the name of the message once the overrides are on. Different messages have different places, so
runs for several datasets with one output directory leave each other's files alone. What could get
in the way is only a link below that directory, which leads two of the paths to one file.
-/

namespace Protogen

open Catalog Descriptor Files

namespace Generator

/-- The only file that is asked for is answered under the name of its output. -/
theorem name_of_firstFile {mapping : PathMapping} {request : GeneratorRequest} {asked : String}
    {file : GeneratedFile} (hasked : request.filesToGenerate = [asked])
    (h : (respond mapping request).firstFile = .ok file) : file.name = Name.outputFile asked := by
  obtain ⟨herror, hfirst⟩ := ((respond mapping request).firstFile_eq_ok_iff file).mp h
  rw [respond] at herror hfirst
  rcases hfiles : request.filesToGenerate.mapM (generatedFile request mapping) with e | files
  · simp [hfiles] at herror
  · simp only [hfiles] at hfirst
    rw [hasked, Outcome.mapM_eq_ok_iff] at hfiles
    obtain _ | ⟨hgenerated, hnil⟩ := hfiles
    obtain rfl := Option.some.inj hfirst
    rw [generatedFile] at hgenerated
    split at hgenerated
    · cases hgenerated
    · obtain ⟨text, -, hgenerated⟩ := (Outcome.bind_eq_ok_iff _ _ _).mp hgenerated
      obtain rfl := Except.ok.inj hgenerated
      rfl

end Generator

/-- What a run with the built-in generator starts from. -/
structure Job where
  mapping : PathMapping
  options : Options
  slug : String
  fetching : Except FetchError (List FileDescriptor)
  device : Device

namespace Job

def run (job : Job) (tree : Tree) : Run :=
  Pipeline.run (Generator.service job.mapping) job.options job.slug job.fetching job.device tree

/-- The tree after runs one after the other, whether they succeed or not. -/
def runAll (jobs : List Job) (tree : Tree) : Tree :=
  jobs.foldl (fun tree job => (job.run tree).tree) tree

/-- The package and the name of the message once the overrides are on. -/
def name? (job : Job) : Option QualifiedName :=
  match job.fetching with
  | .ok [file] =>
    match file.messages with
    | [m] => some ⟨job.options.overrides.packageOn file, job.options.overrides.nameOn m⟩
    | _ => none
  | _ => none

/-- A run ends before the tree is touched, or it writes the artifact of its message, and the
outcome of that is its own. -/
theorem run_cases (job : Job) (tree : Tree) :
    (∃ failure, (job.run tree).result = .error failure ∧ (job.run tree).tree = tree) ∨
      ∃ (name : QualifiedName) (file : GeneratedFile), job.name? = some name ∧
        file.name = name.artifact ∧
        (job.run tree).result =
          (file.writeBelow job.options.out job.device tree).2.mapError Failure.unwritten ∧
        (job.run tree).tree = (file.writeBelow job.options.out job.device tree).1 := by
  rcases Pipeline.run_cases (Generator.service job.mapping) job.options job.slug job.fetching
      job.device tree
    with ⟨failure, hresult, -, -, htree, -⟩ | ⟨request, events, hreaches, hrun⟩
  · exact .inl ⟨failure, hresult, htree⟩
  · obtain ⟨fetched, m, hfetching, hm, -, rfl, -⟩ := hreaches
    have hanswer : Generator.service job.mapping
        (Pipeline.requestFor job.options (job.options.overrides.applied fetched m)) =
          .ok (Generator.respond job.mapping
            (Pipeline.requestFor job.options (job.options.overrides.applied fetched m))) := rfl
    rw [run, hrun, Run.result_reporting, Run.tree_reporting]
    rcases hfirst : (Generator.respond job.mapping (Pipeline.requestFor job.options
      (job.options.overrides.applied fetched m))).firstFile with failure | file
    · exact .inl ⟨failure, Pipeline.asked_of_noFile _ _ _ job.device tree hanswer hfirst⟩
    · have hname : file.name = Name.outputFile (Name.canonicalFile
          (job.options.overrides.packageOn fetched) (job.options.overrides.nameOn m)) := by
        rw [← Overrides.name_applied]
        exact Generator.name_of_firstFile rfl hfirst
      refine .inr ⟨⟨job.options.overrides.packageOn fetched, job.options.overrides.nameOn m⟩, file,
        by simp only [name?, hfetching, hm], ?_,
        Pipeline.asked_of_file _ _ _ job.device tree hanswer hfirst⟩
      rw [hname, Name.outputFile_canonicalFile, QualifiedName.artifact]

/-- A run that succeeds has written the artifact of its message. -/
theorem run_eq_ok {job : Job} {tree : Tree} {path : String}
    (h : (job.run tree).result = .ok path) :
    ∃ name content, job.name? = some name ∧ path = join job.options.out name.artifact ∧
      (job.run tree).tree.read? path = some content := by
  rcases job.run_cases tree with ⟨failure, hresult, -⟩ | ⟨name, file, hname, hfile, hresult, htree⟩
  · rw [h] at hresult
    cases hresult
  · rw [h, eq_comm, Outcome.mapError_eq_ok_iff] at hresult
    obtain ⟨hpath, hread⟩ := GeneratedFile.writeBelow_eq_ok (Prod.ext htree.symm hresult)
    refine ⟨name, file.bytes, hname, ?_, hread⟩
    rw [hpath, GeneratedFile.pathBelow, hfile]

/-- A run leaves the artifact of another message alone. -/
theorem shelters_run {job : Job} {tree : Tree} {name : QualifiedName} {content : List UInt8}
    (h : tree.Shelters job.options.out (join job.options.out name.artifact) content)
    (hname : name.IsPlain)
    (hother : ∀ other, job.name? = some other → other.IsPlain ∧ other ≠ name) :
    (job.run tree).tree.Shelters job.options.out (join job.options.out name.artifact) content := by
  rcases job.run_cases tree with ⟨failure, -, htree⟩ | ⟨other, file, hjob, hfile, -, htree⟩
  · rw [htree]
    exact h
  · obtain ⟨hplain, hne⟩ := hother other hjob
    rw [htree]
    refine h.writeBelow (QualifiedName.isPlainName_artifact hname) file ?_ ?_ job.device
    · rw [hfile]
      exact QualifiedName.isPlainName_artifact hplain
    · rw [hfile]
      intro heq
      exact hne (QualifiedName.eq_of_pieces_artifact_eq hplain hname (by rw [heq]))

/-- So do any number of runs with the same output directory. -/
theorem shelters_runAll {out : String} {name : QualifiedName} {content : List UInt8}
    (hname : name.IsPlain) (jobs : List Job) (tree : Tree)
    (hjobs : ∀ job ∈ jobs, job.options.out = out ∧
      ∀ other, job.name? = some other → other.IsPlain ∧ other ≠ name)
    (h : tree.Shelters out (join out name.artifact) content) :
    (runAll jobs tree).Shelters out (join out name.artifact) content := by
  induction jobs generalizing tree with
  | nil => exact h
  | cons job jobs ih =>
      obtain ⟨⟨rfl, hother⟩, hjobs⟩ := List.forall_mem_cons.mp hjobs
      exact ih _ hjobs (shelters_run h hname hother)

/-- The artifact of a run lies where its package and its message say, other messages have other
places, and later runs for other messages leave it there as it is, as long as there are no links
below the output directory. -/
theorem artifacts_kept_apart :
    (∀ (job : Job) (tree : Tree) (path : String), (job.run tree).result = .ok path →
      ∃ name, job.name? = some name ∧
        path = join job.options.out
          ((if name.package = "" then "" else Name.packagePath name.package ++ "/") ++
            name.message ++ ".pb.rs")) ∧
    (∀ (out : String) (name other : QualifiedName), name.IsPlain → other.IsPlain →
      components (join out name.artifact) = components (join out other.artifact) →
        name = other) ∧
    ∀ (job : Job) (tree : Tree) (path : String) (name : QualifiedName) (later : List Job),
      (job.run tree).result = .ok path → job.name? = some name → name.IsPlain →
      (∀ directory, (job.run tree).tree.directoryOf
          (Tree.start (job.run tree).tree.workingDirectory job.options.out)
          (pieces job.options.out) = .ok directory →
        (job.run tree).tree.HoldsNoLinks directory) →
      (∀ next ∈ later, next.options.out = job.options.out ∧
        ∀ other, next.name? = some other → other.IsPlain ∧ other ≠ name) →
      ∃ content, (job.run tree).tree.read? path = some content ∧
        (runAll later (job.run tree).tree).read? path = some content := by
  refine ⟨fun job tree path h => ?_, fun out name other hname hother heq =>
    QualifiedName.eq_of_components_eq hname hother out heq,
    fun job tree path name later h hjob hname hlinks hlater => ?_⟩
  · obtain ⟨name, content, hname, hpath, -⟩ := run_eq_ok h
    exact ⟨name, hname, hpath⟩
  · obtain ⟨found, content, hfound, rfl, hread⟩ := run_eq_ok h
    obtain rfl : found = name := Option.some.inj (hfound.symm.trans hjob)
    obtain ⟨location, -, hplace, -⟩ := (Tree.read?_eq_some_iff _ _ _).mp hread
    obtain ⟨directory, hdirectory⟩ := Tree.exists_directoryOf_of_locate
      (QualifiedName.isPlainName_artifact hname) hplace
    have hshelters : (job.run tree).tree.Shelters job.options.out
        (join job.options.out found.artifact) content :=
      ⟨⟨directory, hdirectory, hlinks directory hdirectory⟩, hread⟩
    exact ⟨content, hread, (shelters_runAll hname later _ hlater hshelters).read⟩

theorem isPlain_track : ∀ package ∈ ["tracks", "albums"],
    QualifiedName.IsPlain ⟨package, "Track"⟩ := by
  have hpackage : ∀ package ∈ ["tracks", "albums"],
      ∀ part ∈ package.toList.splitOn '.', Name.isIdentifier (String.ofList part) := by
    decide +kernel
  have hmessage : Name.isIdentifier "Track" := by decide +kernel
  exact fun package hmem =>
    QualifiedName.isPlain_of_isIdentifier (.inr (hpackage package hmem)) hmessage

/-- The dataset of tracks under another package. -/
def trackJob (package : String) : Job :=
  ⟨.empty, ⟨⟨some package, none⟩, "out", none⟩, "tracks", .ok [Generator.plainTrackFile], .sound⟩

def trackArtifact (package : String) : GeneratedFile :=
  ⟨some (package ++ "/Track.pb.rs"), none,
    some ("// @generated by tilebox-generate from " ++ package ++ "/Track.proto. DO NOT EDIT.\n" ++
      "\n#[derive(Clone, PartialEq, ::prost::Message)]\npub struct Track \x7b\x7d\n"), none⟩

/-- Both datasets get through to the end, whatever is in the tree. -/
theorem run_trackJob (tree : Tree) : ∀ package ∈ ["tracks", "albums"],
    ((trackJob package).run tree).result =
        ((trackArtifact package).writeBelow "out" .sound tree).2.mapError .unwritten ∧
      ((trackJob package).run tree).tree =
        ((trackArtifact package).writeBelow "out" .sound tree).1 := by
  have hvalid : ∀ package ∈ ["tracks", "albums"], Request.validate
      (Pipeline.requestFor (trackJob package).options ((trackJob package).options.overrides.applied
        Generator.plainTrackFile Generator.plainTrack)) = .ok () := by decide +kernel
  have hfirst : ∀ package ∈ ["tracks", "albums"], (Generator.respond .empty
      (Pipeline.requestFor (trackJob package).options ((trackJob package).options.overrides.applied
        Generator.plainTrackFile Generator.plainTrack))).firstFile =
          .ok (trackArtifact package) := by decide +kernel
  have hname : Generator.plainTrack.name ≠ "" := by decide
  intro package hpackage
  have hreaches : Pipeline.Reaches (trackJob package).options (trackJob package).fetching
      (Pipeline.requestFor (trackJob package).options ((trackJob package).options.overrides.applied
        Generator.plainTrackFile Generator.plainTrack)) :=
    ⟨_, _, rfl, rfl, hname, rfl, hvalid package hpackage⟩
  rcases Pipeline.run_cases (Generator.service .empty) (trackJob package).options "tracks"
      (trackJob package).fetching .sound tree with
    ⟨-, -, -, -, -, hnever⟩ | ⟨request, events, hother, hrun⟩
  · exact absurd hreaches (hnever _)
  · obtain rfl := hother.unique hreaches
    have hrun' : (trackJob package).run tree = _ := hrun
    rw [hrun', Run.result_reporting, Run.tree_reporting]
    exact Pipeline.asked_of_file _ _ _ .sound tree rfl (hfirst package hpackage)

/-- The artifact of `tracks.Track` is still there after a run for `albums.Track`. -/
theorem tracks_kept_from_albums :
    let tree : Tree := ⟨[(["work"], .directory 0o755)], ["work"]⟩
    let tracks := (trackJob "tracks").run tree
    tracks.result = .ok "out/tracks/Track.pb.rs" ∧
      ((trackJob "albums").run tracks.tree).result = .ok "out/albums/Track.pb.rs" ∧
      QualifiedName.IsPlain ⟨"tracks", "Track"⟩ ∧ QualifiedName.IsPlain ⟨"albums", "Track"⟩ ∧
      (∀ directory, tracks.tree.HoldsNoLinks directory) ∧
      ∃ content, tracks.tree.read? "out/tracks/Track.pb.rs" = some content ∧
        (runAll [trackJob "albums"] tracks.tree).read? "out/tracks/Track.pb.rs" = some content := by
  intro tree tracks
  obtain ⟨hresult, htree⟩ := run_trackJob tree "tracks" (by simp)
  obtain ⟨hresult', -⟩ := run_trackJob tracks.tree "albums" (by simp)
  have hpath : tracks.result = .ok "out/tracks/Track.pb.rs" := by
    rw [hresult]
    decide +kernel
  have hlinks (directory : Files.Location) : tracks.tree.HoldsNoLinks directory := by
    rw [htree]
    exact Tree.holdsNoLinks_of_entries (by decide +kernel) directory
  have hlater : ∀ next ∈ [trackJob "albums"], next.options.out = (trackJob "tracks").options.out ∧
      ∀ other, next.name? = some other → other.IsPlain ∧ other ≠ ⟨"tracks", "Track"⟩ := by
    intro next hnext
    obtain rfl := List.mem_singleton.mp hnext
    refine ⟨rfl, fun other hother => ?_⟩
    obtain rfl : ⟨"albums", "Track"⟩ = other := Option.some.inj hother
    exact ⟨isPlain_track "albums" (by simp), by decide⟩
  refine ⟨hpath, ?_, isPlain_track "tracks" (by simp), isPlain_track "albums" (by simp), hlinks,
    artifacts_kept_apart.2.2 (trackJob "tracks") tree _ _ _ hpath rfl
      (isPlain_track "tracks" (by simp)) (fun directory _ => hlinks directory) hlater⟩
  rw [hresult', htree]
  decide +kernel

/-- A link below the output directory lets a run for `albums.Track` overwrite the artifact of
`tracks.Track`. -/
theorem tracks_overwritten_by_albums :
    let tree : Tree := ⟨[(["work"], .directory 0o755), (["work", "out"], .directory 0o755),
      (["work", "out", "tracks"], .directory 0o755),
      (["work", "out", "albums"], .link "tracks")], ["work"]⟩
    let tracks := (trackJob "tracks").run tree
    let albums := (trackJob "albums").run tracks.tree
    (trackJob "tracks").name? = some ⟨"tracks", "Track"⟩ ∧
      (trackJob "albums").name? = some ⟨"albums", "Track"⟩ ∧
      QualifiedName.IsPlain ⟨"tracks", "Track"⟩ ∧ QualifiedName.IsPlain ⟨"albums", "Track"⟩ ∧
      tracks.result = .ok "out/tracks/Track.pb.rs" ∧ albums.result = .ok "out/albums/Track.pb.rs" ∧
      tracks.tree.read? "out/tracks/Track.pb.rs" = some (trackArtifact "tracks").bytes ∧
      albums.tree.read? "out/tracks/Track.pb.rs" = some (trackArtifact "albums").bytes ∧
      (trackArtifact "tracks").bytes ≠ (trackArtifact "albums").bytes := by
  intro tree tracks albums
  obtain ⟨hresult, htree⟩ := run_trackJob tree "tracks" (by simp)
  obtain ⟨hresult', htree'⟩ := run_trackJob tracks.tree "albums" (by simp)
  refine ⟨rfl, rfl, isPlain_track "tracks" (by simp), isPlain_track "albums" (by simp), ?_, ?_, ?_,
    ?_, by decide +kernel⟩
  · rw [hresult]
    decide +kernel
  · rw [hresult', htree]
    decide +kernel
  · rw [htree]
    decide +kernel
  · rw [htree', htree]
    decide +kernel

end Job

end Protogen
