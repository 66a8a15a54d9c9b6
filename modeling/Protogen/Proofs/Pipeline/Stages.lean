import Protogen.Pipeline
import Protogen.Proofs.Files.ReadBack
import Protogen.Proofs.Outcome
import Protogen.Proofs.Overrides.Applied

/-!
# The stages of a run

A run reaches the generator if everything before it succeeds, and `Reaches` says
what that is without going through the stages. A run that does not get there asks
nothing and leaves the tree alone. A run that does asks its one request, and all
that happens afterwards hangs on the answer to it.
-/

namespace Protogen

open Catalog Descriptor Files

namespace Run

@[simp] theorem result_reporting (events : List Event) (run : Run) :
    (run.reporting events).result = run.result := rfl

@[simp] theorem requests_reporting (events : List Event) (run : Run) :
    (run.reporting events).requests = run.requests := rfl

@[simp] theorem tree_reporting (events : List Event) (run : Run) :
    (run.reporting events).tree = run.tree := rfl

theorem reporting_reporting (first later : List Event) (run : Run) :
    (run.reporting later).reporting first = run.reporting (first ++ later) := by
  simp [reporting]

@[simp] theorem result_asking (request : GeneratorRequest) (run : Run) :
    (run.asking request).result = run.result := rfl

@[simp] theorem requests_asking (request : GeneratorRequest) (run : Run) :
    (run.asking request).requests = request :: run.requests := rfl

@[simp] theorem tree_asking (request : GeneratorRequest) (run : Run) :
    (run.asking request).tree = run.tree := rfl

@[simp] theorem result_failed (failure : Failure) (tree : Tree) :
    (failed failure tree).result = .error failure := rfl

@[simp] theorem requests_failed (failure : Failure) (tree : Tree) :
    (failed failure tree).requests = [] := rfl

@[simp] theorem tree_failed (failure : Failure) (tree : Tree) :
    (failed failure tree).tree = tree := rfl

end Run

namespace Request

/-- A request is built exactly if it is valid. -/
theorem build_eq_ok_iff (file : String) (files : List FileDescriptor)
    (parameter? : Option String) (request : GeneratorRequest) :
    build file files parameter? = .ok request ↔
      request = ⟨[file], parameter?, files, none⟩ ∧
        validate ⟨[file], parameter?, files, none⟩ = .ok () := by
  rw [build]
  rcases validate ⟨[file], parameter?, files, none⟩ with e | ⟨⟩
  · simp [bind, Except.bind]
  · simp [bind, Except.bind, eq_comm]

end Request

namespace GeneratorResponse

/-- The first file of an answer is used exactly if the answer is no failure. -/
theorem firstFile_eq_ok_iff (response : GeneratorResponse) (file : GeneratedFile) :
    response.firstFile = .ok file ↔
      response.error? = none ∧ response.files.head? = some file := by
  rcases response with ⟨_ | error, features?, _ | ⟨first, rest⟩⟩ <;>
    simp [firstFile]

end GeneratorResponse

namespace Pipeline

/-- The request that is made of the file of a dataset. -/
def requestFor (options : Options) (file : FileDescriptor) : GeneratorRequest :=
  ⟨[file.name], options.parameter?, WellKnown.assemble file, none⟩

/-- The fetched set has one file, that file one message, the message a name once the
overrides are on, and `request` is the request made of the file then; it is valid. -/
def Reaches (options : Options) (fetching : Except FetchError (List FileDescriptor))
    (request : GeneratorRequest) : Prop :=
  ∃ file m, fetching = .ok [file] ∧ file.messages = [m] ∧ options.overrides.nameOn m ≠ "" ∧
    request = requestFor options (options.overrides.applied file m) ∧
    Request.validate request = .ok ()

/-- A run reaches the generator with one request at most. -/
theorem Reaches.unique {options : Options}
    {fetching : Except FetchError (List FileDescriptor)} {request other : GeneratorRequest}
    (h : Reaches options fetching request) (h' : Reaches options fetching other) :
    request = other := by
  obtain ⟨file, m, rfl, hm, -, rfl, -⟩ := h
  obtain ⟨file', m', hfile, hm', -, rfl, -⟩ := h'
  simp only [Except.ok.injEq, List.cons.injEq, and_true] at hfile
  subst hfile
  rw [hm, List.cons.injEq] at hm'
  rw [hm'.1]

section

variable (service : GeneratorService) (options : Options) (slug : String)
  (fetching : Except FetchError (List FileDescriptor)) (device : Device) (tree : Tree)

theorem prepared_cases (file : FileDescriptor) :
    (∃ e, (prepared service options file device tree).result = .error (.invalid e) ∧
      (prepared service options file device tree).requests = [] ∧
      (prepared service options file device tree).tree = tree ∧
      Request.validate (requestFor options file) ≠ .ok ()) ∨
    (∃ events, Request.validate (requestFor options file) = .ok () ∧
      prepared service options file device tree =
        (asked service options.out (requestFor options file) device tree).reporting events) := by
  rw [prepared]
  rcases hbuild : Request.build file.name (WellKnown.assemble file) options.parameter? with
    e | request
  · refine .inl ⟨e, rfl, rfl, rfl, fun hvalid => ?_⟩
    have := (Request.build_eq_ok_iff _ _ _ _).mpr ⟨rfl, hvalid⟩
    rw [hbuild] at this
    cases this
  · obtain ⟨rfl, hvalid⟩ := (Request.build_eq_ok_iff _ _ _ _).mp hbuild
    exact .inr ⟨_, hvalid, rfl⟩

/-- A run ends before the generator, with the tree as it was, or goes on with the
request that it reaches the generator with. -/
theorem run_cases :
    (∃ failure, (run service options slug fetching device tree).result = .error failure ∧
      (failure.stage = .fetch ∨ failure.stage = .prepare ∨ failure.stage = .validate) ∧
      (run service options slug fetching device tree).requests = [] ∧
      (run service options slug fetching device tree).tree = tree ∧
      ∀ request, ¬Reaches options fetching request) ∨
    (∃ request events, Reaches options fetching request ∧
      run service options slug fetching device tree =
        (asked service options.out request device tree).reporting events) := by
  rcases fetching with e | files
  · refine .inl ⟨.unfetched slug e, rfl, .inl rfl, rfl, rfl, ?_⟩
    rintro request ⟨file, m, hfile, -⟩
    cases hfile
  · rcases hfile : soleFile files >>= options.overrides.apply with e | rewritten
    · refine .inl ⟨.malformed e, by simp [run, fetched, hfile], .inr (.inl rfl),
        by simp [run, fetched, hfile], by simp [run, fetched, hfile], ?_⟩
      rintro request ⟨file, m, hfiles, hm, hname, -⟩
      obtain rfl := Except.ok.inj hfiles
      change options.overrides.apply file = .error e at hfile
      rw [options.overrides.apply_of_messages hm hname] at hfile
      cases hfile
    · have hrun : run service options slug (.ok files) device tree =
          ((prepared service options rewritten device tree).reporting
            [.descriptorPrepared rewritten.name rewritten.package]).reporting
              [.descriptorFetched slug files.length] := by
        simp only [run, fetched, hfile]
      obtain ⟨file, hfiles, happly⟩ := (Outcome.bind_eq_ok_iff _ _ _).mp hfile
      rw [soleFile_eq_ok_iff] at hfiles
      obtain ⟨m, hm, hname, rfl⟩ := (options.overrides.apply_eq_ok_iff _ _).mp happly
      rcases prepared_cases service options device tree (options.overrides.applied file m) with
        ⟨e, hresult, hrequests, htree, hinvalid⟩ | ⟨events, hvalid, hprepared⟩
      · refine .inl ⟨.invalid e, by rw [hrun]; exact hresult, .inr (.inr rfl),
          by rw [hrun]; exact hrequests, by rw [hrun]; exact htree, ?_⟩
        rintro request ⟨file', m', hfile', hm', -, rfl, hvalid⟩
        simp only [hfiles, Except.ok.injEq, List.cons.injEq, and_true] at hfile'
        subst hfile'
        rw [hm, List.cons.injEq] at hm'
        rw [← hm'.1] at hvalid
        exact hinvalid hvalid
      · exact .inr ⟨requestFor options (options.overrides.applied file m), _,
          ⟨file, m, by rw [hfiles], hm, hname, rfl, hvalid⟩, by
            rw [hrun, hprepared, Run.reporting_reporting, Run.reporting_reporting]⟩

end

section

variable (service : GeneratorService) (out : String) (request : GeneratorRequest)
  (device : Device) (tree : Tree)

theorem requests_asked : (asked service out request device tree).requests = [request] := by
  rw [asked]
  split
  · rename_i response _
    rw [Run.requests_asking, answered]
    split
    · rw [Run.requests_reporting, write]
      split <;> rfl
    · rfl
  · rfl

/-- No answer ends the run with what the generator says, and nothing is written. -/
theorem asked_of_error {text : String} (h : service request = .error text) :
    (asked service out request device tree).result = .error (.ungenerated text) ∧
      (asked service out request device tree).tree = tree := by
  rw [asked, h]
  exact ⟨rfl, rfl⟩

/-- An answer without a first file ends the run, and nothing is written. -/
theorem asked_of_noFile {response : GeneratorResponse} {failure : Failure}
    (h : service request = .ok response) (hfile : response.firstFile = .error failure) :
    (asked service out request device tree).result = .error failure ∧
      (asked service out request device tree).tree = tree := by
  simp only [asked, h, answered, hfile]
  exact ⟨rfl, rfl⟩

/-- The first file of an answer is written, and nothing else happens. -/
theorem asked_of_file {response : GeneratorResponse} {file : GeneratedFile}
    (h : service request = .ok response) (hfile : response.firstFile = .ok file) :
    (asked service out request device tree).result =
        ((file.writeBelow out device tree).2.mapError .unwritten) ∧
      (asked service out request device tree).tree = (file.writeBelow out device tree).1 := by
  simp only [asked, h, answered, hfile, Run.result_asking, Run.tree_asking, Run.result_reporting,
    Run.tree_reporting, write]
  rcases file.writeBelow out device tree with ⟨after, e | path⟩ <;> exact ⟨rfl, rfl⟩

/-- A failure in an earlier stage than the last one leaves the tree alone. -/
theorem tree_asked_of_error {failure : Failure}
    (h : (asked service out request device tree).result = .error failure)
    (hstage : failure.stage ≠ .write) : (asked service out request device tree).tree = tree := by
  rcases hanswer : service request with text | response
  · exact (asked_of_error service out request device tree hanswer).2
  · rcases hfirst : response.firstFile with failure' | file
    · exact (asked_of_noFile service out request device tree hanswer hfirst).2
    · rw [(asked_of_file service out request device tree hanswer hfirst).1,
        Outcome.mapError_eq_error_iff] at h
      obtain ⟨cause, -, rfl⟩ := h
      exact absurd rfl hstage

/-- A success means that the first file of the answer was written. -/
theorem asked_eq_ok {path : String}
    (h : (asked service out request device tree).result = .ok path) :
    ∃ response file, service request = .ok response ∧ response.firstFile = .ok file ∧
      file.writeBelow out device tree =
        ((asked service out request device tree).tree, .ok path) := by
  rcases hanswer : service request with text | response
  · rw [(asked_of_error service out request device tree hanswer).1] at h
    cases h
  · rcases hfirst : response.firstFile with failure | file
    · rw [(asked_of_noFile service out request device tree hanswer hfirst).1] at h
      cases h
    · obtain ⟨hresult, htree⟩ := asked_of_file service out request device tree hanswer hfirst
      rw [hresult, Outcome.mapError_eq_ok_iff] at h
      exact ⟨response, file, rfl, hfirst, Prod.ext htree.symm h⟩

end

section

variable (service : GeneratorService) (options : Options) (slug : String)
  (fetching : Except FetchError (List FileDescriptor)) (device : Device) (tree : Tree)

/-- The generator is asked exactly the request that the run reaches it with. -/
theorem mem_requests_run_iff (request : GeneratorRequest) :
    request ∈ (run service options slug fetching device tree).requests ↔
      Reaches options fetching request := by
  rcases run_cases service options slug fetching device tree with
    ⟨failure, -, -, hrequests, -, hreaches⟩ | ⟨asked?, events, hreaches, hrun⟩
  · rw [hrequests]
    exact iff_of_false (by simp) (hreaches request)
  · rw [hrun, Run.requests_reporting, requests_asked, List.mem_singleton]
    exact ⟨fun h => h ▸ hreaches, fun h => h.unique hreaches⟩

/-- The run depends on the generator only through its answer to that request. -/
theorem run_congr {other : GeneratorService}
    (h : ∀ request, Reaches options fetching request → other request = service request) :
    run other options slug fetching device tree =
      run service options slug fetching device tree := by
  rcases fetching with e | files
  · rfl
  · rcases hfile : soleFile files >>= options.overrides.apply with e | rewritten
    · simp only [run, fetched, hfile]
    · rcases hbuild : Request.build rewritten.name (WellKnown.assemble rewritten)
          options.parameter? with e | request
      · simp only [run, fetched, hfile, prepared, hbuild]
      · obtain ⟨file, hfiles, happly⟩ := (Outcome.bind_eq_ok_iff _ _ _).mp hfile
        rw [soleFile_eq_ok_iff] at hfiles
        obtain ⟨m, hm, hname, rfl⟩ := (options.overrides.apply_eq_ok_iff _ _).mp happly
        obtain ⟨rfl, hvalid⟩ := (Request.build_eq_ok_iff _ _ _ _).mp hbuild
        have hanswer := h _ ⟨file, m, by rw [hfiles], hm, hname, rfl, hvalid⟩
        rw [requestFor] at hanswer
        simp only [run, fetched, hfile, prepared, hbuild, asked, hanswer]

end

end Pipeline

end Protogen
