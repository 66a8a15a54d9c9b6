import Protogen.Proofs.Descriptor.RoundTrip
import Protogen.Proofs.Plugin.Session

/-!
# What goes through the pipes

Requests and responses come back from their bytes. So a plugin that reads all of its input has the
request that it is asked, a response that it writes is the one that is returned, and of all that a
plugin does only the way it ends and what it writes count.
-/

namespace Protogen

open Descriptor Wire

/-! ### Requests and responses that come back -/

@[simp] theorem CompilerVersion.ofRecord_toRecord (v : CompilerVersion) :
    ofRecord v.toRecord = v := by
  unfold toRecord ofRecord
  simp

theorem CompilerVersion.conforms (v : CompilerVersion) : Conforms .compilerVersion v.toRecord := by
  unfold toRecord
  repeat' apply Conforms.append
  · exact .ofInt32? rfl _
  · exact .ofInt32? rfl _
  · exact .ofInt32? rfl _
  · exact .ofText? rfl _

namespace GeneratorRequest

@[simp] theorem ofRecord_toRecord (q : GeneratorRequest) : ofRecord q.toRecord = q := by
  unfold toRecord ofRecord
  simp [Function.comp_def]

theorem conforms (q : GeneratorRequest) : Conforms .generatorRequest q.toRecord := by
  unfold toRecord
  repeat' apply Conforms.append
  · exact .ofTexts rfl _
  · exact .ofText? rfl _
  · exact .ofMessage?_map rfl _ CompilerVersion.conforms
  · exact .ofMessages_map rfl _ FileDescriptor.conforms

theorem decode_encode {q : GeneratorRequest} (hdepth : Record.depth q.toRecord ≤ nestingLimit)
    (hlength : q.encode.length < 2 ^ 64) : decode q.encode = .ok q := by
  have hread : Wire.decode .generatorRequest q.encode = .ok q.toRecord :=
    Wire.decode_encode q.conforms hdepth hlength
  rw [decode, hread]
  exact congrArg Except.ok q.ofRecord_toRecord

end GeneratorRequest

@[simp] theorem CodeSpan.ofRecord_toRecord (s : CodeSpan) : ofRecord s.toRecord = s := by
  unfold toRecord ofRecord
  simp

theorem CodeSpan.conforms (s : CodeSpan) : Conforms .annotatedSpan s.toRecord := by
  unfold toRecord
  repeat' apply Conforms.append
  · exact .ofPacked rfl _
  · exact .ofText? rfl _
  · exact .ofInt32? rfl _
  · exact .ofInt32? rfl _

namespace GeneratedFile

theorem conforms_spansRecord (spans : List CodeSpan) :
    Conforms .generatedCodeInfo (spansRecord spans) :=
  .ofMessages_map rfl _ CodeSpan.conforms

@[simp] theorem ofRecord_toRecord (f : GeneratedFile) : ofRecord f.toRecord = f := by
  unfold toRecord ofRecord
  simp [spansRecord, Function.comp_def]

theorem conforms (f : GeneratedFile) : Conforms .generatedFile f.toRecord := by
  unfold toRecord
  repeat' apply Conforms.append
  · exact .ofText? rfl _
  · exact .ofText? rfl _
  · exact .ofText? rfl _
  · exact .ofMessage?_map rfl _ conforms_spansRecord

end GeneratedFile

namespace GeneratorResponse

@[simp] theorem ofRecord_toRecord (a : GeneratorResponse) : ofRecord a.toRecord = a := by
  unfold toRecord ofRecord
  simp [Function.comp_def]

theorem conforms (a : GeneratorResponse) : Conforms .generatorResponse a.toRecord := by
  unfold toRecord
  repeat' apply Conforms.append
  · exact .ofText? rfl _
  · exact .ofUInt64? rfl _
  · exact .ofMessages_map rfl _ GeneratedFile.conforms

/-- Responses are not recursive, so none of them is nested too deep to be read. -/
theorem depth_le (a : GeneratorResponse) : Record.depth a.toRecord ≤ nestingLimit := by
  have hspan (r : Record) (h : Conforms .annotatedSpan r) : r.depth ≤ 0 :=
    h.depth_le (show ∀ inner ∈ [], _ from nofun)
  have hspans (r : Record) (h : Conforms .generatedCodeInfo r) : r.depth ≤ 1 :=
    h.depth_le (List.forall_mem_singleton.mpr fun _ h => Nat.add_le_add_left (hspan _ h) 1)
  have hfile (r : Record) (h : Conforms .generatedFile r) : r.depth ≤ 2 :=
    h.depth_le (List.forall_mem_singleton.mpr fun _ h => Nat.add_le_add_left (hspans _ h) 1)
  have hresponse : Record.depth a.toRecord ≤ 3 :=
    a.conforms.depth_le
      (List.forall_mem_singleton.mpr fun _ h => Nat.add_le_add_left (hfile _ h) 1)
  exact le_trans hresponse (by decide)

theorem decode_encode {a : GeneratorResponse} (hlength : a.encode.length < 2 ^ 64) :
    decode a.encode = .ok a := by
  have hread : Wire.decode .generatorResponse a.encode = .ok a.toRecord :=
    Wire.decode_encode a.conforms a.depth_le hlength
  rw [decode, hread]
  exact congrArg Except.ok a.ofRecord_toRecord

end GeneratorResponse

namespace Plugin

open Session

/-- All that can be seen of a plugin is how it ends and what it writes: every session in which it
ends comes to the answer that these make, however much of its input has been read by then. A plugin
that reads all of it has the request, and a response that it writes is returned as it is. -/
theorem transport_faithful (room : Nat) (plugin : String) (q : GeneratorRequest) :
    (∀ s status, Reaches room (start (input q)) s → s.status? = some status →
      s.Settles room plugin (verdict plugin status s.output s.errors)) ∧
    (∀ program, generate plugin (.ok program) q =
      verdict plugin (program (input q)).status (program (input q)).output
        (program (input q)).errors) ∧
    (Record.depth q.toRecord ≤ nestingLimit → q.encode.length < 2 ^ 64 →
      ∀ a : GeneratorResponse, a.encode.length < 2 ^ 64 →
        ∀ s, Reaches room (start (input q)) s → s.HasReadAll → s.status? = some (.code 0) →
          s.output = a.encode →
            GeneratorRequest.decode s.taken = .ok q ∧ s.Settles room plugin (.ok a)) := by
  have hsettles {s : Session} {status : ExitStatus} (h : Reaches room (start (input q)) s)
      (hstatus : s.status? = some status) :
      s.Settles room plugin (verdict plugin status s.output s.errors) :=
    (sound_of_reaches_start h).settles room plugin hstatus
  refine ⟨fun s status => hsettles, fun program => generate_eq_verdict plugin program q, ?_⟩
  intro hdepth hlength a hresponse s h hread hstatus houtput
  have htaken : s.taken = q.encode := (sound_of_reaches_start h).taken_eq hread
  have hverdict : verdict plugin (.code 0) s.output s.errors = .ok a := by
    rw [verdict, if_pos rfl, houtput, GeneratorResponse.decode_encode hresponse]
    rfl
  exact ⟨htaken ▸ GeneratorRequest.decode_encode hdepth hlength, hverdict ▸ hsettles h hstatus⟩

def trackRequest : GeneratorRequest :=
  ⟨["track.proto"], some "spans",
    [{ FileDescriptor.blank with
        name? := some "track.proto"
        messages := [⟨{ MessageBody.blank with name? := some "Track" }, []⟩] }],
    some ⟨some 3, some 21, some 12, none⟩⟩

def trackResponse : GeneratorResponse :=
  ⟨none, some 1,
    [⟨some "track.rs", none, some "pub struct Track;", some [⟨[4, 0], none, some 11, some 16⟩]⟩]⟩

/-- There and back through a pipe for one byte, with a warning besides; and a plugin that does not
even look at its input. -/
theorem track_request_answered :
    (∃ s, Reaches 1 (start (input trackRequest)) s ∧ s.errors = [33] ∧
      GeneratorRequest.decode s.taken = .ok trackRequest ∧
        s.Settles 1 "spans" (.ok trackResponse)) ∧
    (∃ s, Reaches 1 (start (input trackRequest)) s ∧ s.taken = [] ∧
      s.Settles 1 "spans" (.error (.failed "spans" (.code 3) "!"))) := by
  have hdepth : Record.depth trackRequest.toRecord ≤ nestingLimit := by decide
  have hlength : trackRequest.encode.length < 2 ^ 64 := by decide +kernel
  have hresponse : trackResponse.encode.length < 2 ^ 64 := by decide +kernel
  obtain ⟨hends, -, hfaithful⟩ := transport_faithful 1 "spans" trackRequest
  constructor
  · obtain ⟨s, h, hs, hunwritten, hpipe⟩ := exists_reaches_endsAs Nat.one_pos (input trackRequest)
      ⟨(input trackRequest).length, trackResponse.encode, [33], .code 0⟩
    rw [List.drop_length] at hunwritten
    exact ⟨s, h, hs.errors_eq, hfaithful hdepth hlength trackResponse hresponse s h
      ⟨hpipe, hunwritten⟩ hs.status_eq hs.output_eq⟩
  · obtain ⟨s, h, hs, -, -⟩ := exists_reaches_endsAs Nat.one_pos (input trackRequest)
      ⟨0, trackResponse.encode, [33], .code 3⟩
    have hsettles := hends s _ h hs.status_eq
    rw [hs.output_eq, hs.errors_eq] at hsettles
    exact ⟨s, h, hs.taken_eq, hsettles⟩

end Plugin

end Protogen
