import Protogen.Proofs.Pipeline.Stages

/-!
# What a run promises

The promises hold for every outcome of the fetch, all settings, every generator, every
device and every tree. They are the fields of `Contract`, and each of them follows from one
case distinction: the run ends before the generator is asked, or it goes on with the
one request that it is asked.
-/

namespace Protogen

open Catalog Descriptor Files

namespace Pipeline

/-- What can be relied on in a run for a dataset. -/
structure Contract (service : GeneratorService) (options : Options)
    (fetching : Except FetchError (List FileDescriptor)) (tree : Tree) (run : Run) : Prop where
  asksOnce : run.requests.length ≤ 1
  asks_iff : run.requests.length = 1 ↔
    ∃ file m, fetching = .ok [file] ∧ file.messages = [m] ∧ options.overrides.nameOn m ≠ "" ∧
      Request.validate (requestFor options (options.overrides.applied file m)) = .ok ()
  /-- The request is for the file with its overrides on, which comes last. -/
  request : ∀ request ∈ run.requests, ∃ file rewritten m,
    fetching = .ok [file] ∧ options.overrides.apply file = .ok rewritten ∧
      rewritten.messages = [m] ∧ rewritten.name = Name.canonicalFile rewritten.package m.name ∧
      request.filesToGenerate = [Name.canonicalFile rewritten.package m.name] ∧
      request.files = [WellKnown.duration, WellKnown.timestamp, WellKnown.sharedTypes, rewritten] ∧
      request.parameter? = options.parameter?
  /-- Only the last stage touches the tree. -/
  untouched : ∀ failure, run.result = .error failure → failure.stage ≠ .write → run.tree = tree
  noAnswer : ∀ request ∈ run.requests, ∀ text, service request = .error text →
    run.result = .error (.ungenerated text)
  /-- A failure that the generator answers with is passed on as it is. -/
  failedAnswer : ∀ request ∈ run.requests, ∀ response error, service request = .ok response →
    response.error? = some error → run.result = .error (.ungenerated error)
  emptyAnswer : ∀ request ∈ run.requests, ∀ response, service request = .ok response →
    response.error? = none → response.files = [] →
    run.result = .error (.ungenerated "backend returned no files")
  /-- A run that succeeds has written the first file of the answer. -/
  written : ∀ path, run.result = .ok path → ∃ request response file,
    run.requests = [request] ∧ service request = .ok response ∧ response.error? = none ∧
      response.files.head? = some file ∧ path = join options.out file.name ∧
      run.tree.read? path = some file.bytes

/-- The promises are kept by a run that ends before the generator is asked. -/
theorem contract_of_unreached {service : GeneratorService} {options : Options}
    {fetching : Except FetchError (List FileDescriptor)} {tree : Tree} {run : Run}
    {failure : Failure} (hresult : run.result = .error failure) (hrequests : run.requests = [])
    (htree : run.tree = tree) (hreaches : ∀ request, ¬Reaches options fetching request) :
    Contract service options fetching tree run where
  asksOnce := by simp [hrequests]
  asks_iff := by
    rw [hrequests]
    refine iff_of_false (by simp) ?_
    rintro ⟨file, m, hfile, hm, hname, hvalid⟩
    exact hreaches _ ⟨file, m, hfile, hm, hname, rfl, hvalid⟩
  request := by simp [hrequests]
  untouched := fun _ _ _ => htree
  noAnswer := by simp [hrequests]
  failedAnswer := by simp [hrequests]
  emptyAnswer := by simp [hrequests]
  written := by simp [hresult]

/-- What an answer does to a run, from the answer on. -/
theorem contract_of_reached {service : GeneratorService} {options : Options}
    {fetching : Except FetchError (List FileDescriptor)} {tree : Tree}
    {request : GeneratorRequest} (device : Device) (events : List Event)
    (hreaches : Reaches options fetching request) :
    Contract service options fetching tree
      ((asked service options.out request device tree).reporting events) := by
  have hrequests := requests_asked service options.out request device tree
  obtain ⟨file, m, hfile, hm, hname, hrequest, hvalid⟩ := hreaches
  have hmem : ∀ {other}, other ∈ ((asked service options.out request device tree).reporting
      events).requests → other = request := by
    intro other hother
    rwa [Run.requests_reporting, hrequests, List.mem_singleton] at hother
  refine ⟨by simp [hrequests], ?_, ?_, ?_, ?_, ?_, ?_, ?_⟩
  · refine iff_of_true (by simp [hrequests]) ⟨file, m, hfile, hm, hname, ?_⟩
    rwa [← hrequest]
  · intro other hother
    obtain rfl := hmem hother
    refine ⟨file, options.overrides.applied file m, options.overrides.onMessage m, hfile,
      options.overrides.apply_of_messages hm hname, rfl, ?_, ?_, ?_, ?_⟩
    · simp
    · simp [hrequest, requestFor]
    · simp [hrequest, requestFor, WellKnown.assemble]
    · simp [hrequest, requestFor]
  · intro failure hresult hstage
    exact tree_asked_of_error service options.out request device tree hresult hstage
  · intro other hother text hanswer
    obtain rfl := hmem hother
    exact (asked_of_error service options.out other device tree hanswer).1
  · intro other hother response error hanswer herror
    obtain rfl := hmem hother
    exact (asked_of_noFile service options.out other device tree hanswer
      (by simp [GeneratorResponse.firstFile, herror])).1
  · intro other hother response hanswer herror hempty
    obtain rfl := hmem hother
    exact (asked_of_noFile service options.out other device tree hanswer
      (by simp [GeneratorResponse.firstFile, herror, hempty])).1
  · intro path hresult
    obtain ⟨response, first, hanswer, hfirst, hwrite⟩ :=
      asked_eq_ok service options.out request device tree hresult
    obtain ⟨herror, hhead⟩ := (response.firstFile_eq_ok_iff first).mp hfirst
    obtain ⟨rfl, hread⟩ := GeneratedFile.writeBelow_eq_ok hwrite
    exact ⟨request, response, first, hrequests, hanswer, herror, hhead, rfl, hread⟩

/-- Every run keeps its promises, and it depends on the generator only through the
answer to the request that it makes. -/
theorem run_keeps_contract (service : GeneratorService) (options : Options) (slug : String)
    (fetching : Except FetchError (List FileDescriptor)) (device : Device) (tree : Tree) :
    Contract service options fetching tree (run service options slug fetching device tree) ∧
      ∀ other : GeneratorService,
        (∀ request ∈ (run service options slug fetching device tree).requests,
          other request = service request) →
        run other options slug fetching device tree =
          run service options slug fetching device tree := by
  constructor
  · rcases run_cases service options slug fetching device tree with
      ⟨failure, hresult, -, hrequests, htree, hreaches⟩ | ⟨request, events, hreaches, hrun⟩
    · exact contract_of_unreached hresult hrequests htree hreaches
    · rw [hrun]
      exact contract_of_reached device events hreaches
  · intro other h
    refine run_congr service options slug fetching device tree fun request hreaches => h request ?_
    exact (mem_requests_run_iff service options slug fetching device tree request).mpr hreaches

end Pipeline

end Protogen
