import Protogen.Catalog.Client
import Protogen.Proofs.Descriptor.RoundTrip

/-!
# What fetching gives

Each answer of the catalog leads to one outcome: there is no complete answer, the status is no
success, the body is no dataset, the dataset has no descriptor set, or its descriptor set is there.
A dataset that the catalog writes into its answer comes back whole.
-/

namespace Protogen

namespace Catalog

open Descriptor Wire

/-! ### Datasets that come back -/

@[simp] theorem UniqueId.ofRecord_toRecord (id : UniqueId) : ofRecord id.toRecord = id := by
  unfold toRecord ofRecord
  simp

theorem UniqueId.conforms (id : UniqueId) : Conforms .uniqueId id.toRecord :=
  .ofPlainBytes rfl _

@[simp] theorem fileSetOfRecord_fileSetRecord (files : List FileDescriptor) :
    fileSetOfRecord (fileSetRecord files) = files := by
  unfold fileSetOfRecord fileSetRecord
  simp [Function.comp_def]

theorem conforms_fileSetRecord (files : List FileDescriptor) :
    Conforms .fileDescriptorSet (fileSetRecord files) :=
  .ofMessages_map rfl _ FileDescriptor.conforms

@[simp] theorem AnnotatedType.ofRecord_toRecord (t : AnnotatedType) : ofRecord t.toRecord = t := by
  unfold toRecord ofRecord
  simp [Function.comp_def]

theorem AnnotatedType.conforms (t : AnnotatedType) : Conforms .annotatedType t.toRecord :=
  .append (.ofMessage?_map rfl _ conforms_fileSetRecord) (.ofPlainText rfl _)

namespace Dataset

@[simp] theorem ofRecord_toRecord (d : Dataset) : ofRecord d.toRecord = d := by
  unfold toRecord ofRecord
  simp [Function.comp_def]

theorem conforms (d : Dataset) : Conforms .dataset d.toRecord := by
  unfold toRecord
  repeat' apply Conforms.append
  · exact .ofMessage?_map rfl _ UniqueId.conforms
  · exact .ofMessage?_map rfl _ UniqueId.conforms
  · exact .ofMessage?_map rfl _ AnnotatedType.conforms
  · exact .ofPlainText rfl _
  · exact .ofPlainText rfl _

theorem decode_encode {d : Dataset} (hdepth : Record.depth d.toRecord ≤ nestingLimit)
    (hlength : d.encode.length < 2 ^ 64) : decode d.encode = .ok d := by
  have hread : Wire.decode .dataset d.encode = .ok d.toRecord :=
    Wire.decode_encode d.conforms hdepth hlength
  rw [decode, hread]
  exact congrArg Except.ok d.ofRecord_toRecord

end Dataset

/-! ### Answers and outcomes -/

/-- The outcome for a dataset that is found. -/
inductive Dataset.Yields (slug : String) (d : Dataset) :
    Except FetchError (List FileDescriptor) → Prop
  | noType : d.type? = none → Yields slug d (.error (.untyped slug))
  | noFiles {t : AnnotatedType} :
      d.type? = some t → t.files? = none → Yields slug d (.error (.untyped slug))
  | files {t : AnnotatedType} {files : List FileDescriptor} :
      d.type? = some t → t.files? = some files → Yields slug d (.ok files)

theorem Dataset.yields_of_files? (slug : String) (d : Dataset) :
    d.Yields slug (match d.files? with
      | some files => .ok files
      | none => .error (.untyped slug)) := by
  rw [files?]
  cases htype : d.type? with
  | none => exact .noType htype
  | some t =>
      rw [Option.bind_some]
      cases hfiles : t.files? with
      | none => exact .noFiles htype hfiles
      | some files => exact .files htype hfiles

theorem Dataset.Yields.eq_ok {slug : String} {d : Dataset} {t : AnnotatedType}
    {files : List FileDescriptor} {result : Except FetchError (List FileDescriptor)}
    (h : d.Yields slug result) (htype : d.type? = some t) (hfiles : t.files? = some files) :
    result = .ok files := by
  cases h with
  | noType hnone => exact nomatch htype.symm.trans hnone
  | noFiles htype' hnone =>
      obtain rfl := Option.some.inj (htype.symm.trans htype')
      exact nomatch hfiles.symm.trans hnone
  | files htype' hfiles' =>
      obtain rfl := Option.some.inj (htype.symm.trans htype')
      exact congrArg Except.ok (Option.some.inj (hfiles'.symm.trans hfiles))

theorem isSuccess_iff (status : Nat) : isSuccess status = true ↔ 200 ≤ status ∧ status < 300 := by
  simp [isSuccess]

/-- The status and the body of an answer that arrives as a whole. -/
def Reply.complete? : Reply → Option (Nat × List UInt8)
  | .answer status body true => some (status, body)
  | .answer _ _ false | .nothing _ => none

namespace Client

/-- The complete answer to the request for a dataset, if a request is made and one arrives. -/
def answer? (c : Client) (ask : HttpRequest → Reply) (slug : String) :
    Option (Nat × List UInt8) :=
  (c.sent? slug).bind fun question => (ask question).complete?

/-- The outcome for the answer, or for none. -/
inductive Classified (c : Client) (slug : String) :
    Option (Nat × List UInt8) → Except FetchError (List FileDescriptor) → Prop
  | transport (cause : TransportError) :
      Classified c slug none (.error (.transport c.address cause))
  | refused {status : Nat} (body : List UInt8) (code message : String) :
      ¬(200 ≤ status ∧ status < 300) →
        Classified c slug (some (status, body)) (.error (.refused c.address status code message))
  | undecodable {status : Nat} {body : List UInt8} {cause : DecodeError} :
      200 ≤ status ∧ status < 300 → Dataset.decode body = .error cause →
        Classified c slug (some (status, body)) (.error (.undecodable c.address cause))
  | found {status : Nat} {body : List UInt8} {d : Dataset}
      {result : Except FetchError (List FileDescriptor)} :
      200 ≤ status ∧ status < 300 → Dataset.decode body = .ok d → d.Yields slug result →
        Classified c slug (some (status, body)) result

section

variable (c : Client) (ask : HttpRequest → Reply) (slug : String)

/-- What is made of a reply. -/
def outcome (url : Url) (reply : Reply) : Except FetchError (List FileDescriptor) := do
  let d ← c.datasetOf url reply
  match d.files? with
  | some files => .ok files
  | none => .error (.untyped slug)

theorem result_fetch_of_error {cause : TransportError} (h : c.request slug = .error cause) :
    (c.fetch ask slug).result = .error (.transport c.address cause) := by
  rw [fetch, h]

theorem result_fetch_of_ok {question : HttpRequest} (h : c.request slug = .ok question) :
    (c.fetch ask slug).result = c.outcome slug question.url (ask question) := by
  rw [fetch, h, outcome]
  dsimp only
  cases c.datasetOf question.url (ask question) <;> rfl

/-- One case for each way in which a dataset is not found, and one for a dataset. -/
theorem classified_outcome (url : Url) (reply : Reply) :
    Classified c slug reply.complete? (c.outcome slug url reply) := by
  cases reply with
  | nothing fault => exact .transport _
  | answer status body complete =>
      cases complete with
      | false => exact .transport _
      | true =>
          rw [outcome, datasetOf]
          by_cases hsuccess : isSuccess status
          · have hstatus := (isSuccess_iff status).mp hsuccess
            cases hdecode : Dataset.decode body with
            | error cause =>
              simp only [hsuccess]
              exact .undecodable hstatus hdecode
            | ok d =>
              simp only [hsuccess]
              exact .found hstatus hdecode (d.yields_of_files? slug)
          · simp only [hsuccess]
            exact .refused body _ _ ((isSuccess_iff status).not.mp hsuccess)

theorem classified_fetch :
    Classified c slug (c.answer? ask slug) (c.fetch ask slug).result := by
  rw [answer?, sent?]
  cases hrequest : c.request slug with
  | error cause =>
      rw [result_fetch_of_error c ask slug hrequest]
      exact .transport cause
  | ok question =>
      rw [result_fetch_of_ok c ask slug hrequest]
      exact classified_outcome c slug question.url (ask question)

end

/-- A dataset that a success brings is the one the outcome comes from. -/
theorem Classified.yields {c : Client} {slug : String} {status : Nat} {d : Dataset}
    {result : Except FetchError (List FileDescriptor)}
    (h : Classified c slug (some (status, d.encode)) result) (hstatus : 200 ≤ status ∧ status < 300)
    (hdepth : Record.depth d.toRecord ≤ nestingLimit) (hlength : d.encode.length < 2 ^ 64) :
    d.Yields slug result := by
  have hdecode := Dataset.decode_encode hdepth hlength
  cases h with
  | refused body code message hrefused => exact absurd hstatus hrefused
  | undecodable _ hbad => exact nomatch hdecode.symm.trans hbad
  | found _ hfound hyields =>
      obtain rfl := Except.ok.inj (hdecode.symm.trans hfound)
      exact hyields

/-- Every answer is classified, and a dataset that is written into a success comes through
unchanged. Its encoding has to be of a length that can be announced. -/
theorem fetch_classifies (c : Client) (ask : HttpRequest → Reply) (slug : String) :
    Classified c slug (c.answer? ask slug) (c.fetch ask slug).result ∧
      ∀ (status : Nat) (d : Dataset), 200 ≤ status ∧ status < 300 →
        Record.depth d.toRecord ≤ nestingLimit → d.encode.length < 2 ^ 64 →
          c.answer? ask slug = some (status, d.encode) →
            d.Yields slug (c.fetch ask slug).result := by
  have h := classified_fetch c ask slug
  refine ⟨h, fun status d hstatus hdepth hlength hanswer => ?_⟩
  rw [hanswer] at h
  exact h.yields hstatus hdepth hlength

/-- One half, under a name that no tool has looked up yet. -/
def samplingRate : UninterpretedOption :=
  ⟨[⟨"acme.sampling_rate", true⟩], none, none, none, some 0x3FE0000000000000, none, none⟩

/-- The package is the empty one, which is not the same as none. -/
def trackFile : FileDescriptor :=
  { FileDescriptor.blank with
    name? := some "track.proto"
    package? := some ""
    options? := some { FileOptions.blank with uninterpreted := [samplingRate] }
    messages := [⟨{ MessageBody.blank with name? := some "Track" },
      [⟨{ MessageBody.blank with name? := some "Point" }, []⟩]⟩] }

def trackDataset : Dataset := ⟨none, none, some ⟨some [trackFile], "acme/Track"⟩, "tracks", ""⟩

def catalogClient : Client := ⟨"http://catalog", "key"⟩

/-- A catalog with one dataset. -/
def trackCatalog (_ : HttpRequest) : Reply := .answer 200 trackDataset.encode true

theorem track_fetched :
    Record.depth trackDataset.toRecord ≤ nestingLimit ∧ trackDataset.encode.length < 2 ^ 64 ∧
      catalogClient.answer? trackCatalog "acme.tracks" = some (200, trackDataset.encode) ∧
        (catalogClient.fetch trackCatalog "acme.tracks").result = .ok [trackFile] := by
  have hdepth : Record.depth trackDataset.toRecord ≤ nestingLimit := by decide
  have hlength : trackDataset.encode.length < 2 ^ 64 := by decide +kernel
  have hanswer : catalogClient.answer? trackCatalog "acme.tracks" =
      some (200, trackDataset.encode) := rfl
  have hyields := (fetch_classifies catalogClient trackCatalog "acme.tracks").2 200 trackDataset
    ⟨le_rfl, by decide⟩ hdepth hlength hanswer
  exact ⟨hdepth, hlength, hanswer, hyields.eq_ok rfl rfl⟩

end Client

end Catalog

end Protogen
