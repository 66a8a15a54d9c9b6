import Protogen.Catalog.Dataset
import Protogen.Catalog.ErrorBody
import Protogen.Catalog.FetchError
import Protogen.Catalog.Url
import Protogen.Event
import Protogen.Text.Blank

/-!
# The catalog client

A dataset is fetched with one request. Whatever comes back is one of five things:
no complete answer, a failure status, bytes that are no dataset, a dataset
without a descriptor set, or a descriptor set.
-/

namespace Protogen

namespace Catalog

open Descriptor

/-- A request, with the address it is sent to. -/
structure HttpRequest where
  url : Url
  authorization : String
  contentType : String
  protocolVersion : String
  body : List UInt8
  deriving DecidableEq, Repr

/-- What comes back for a request. -/
inductive Reply
  | nothing (fault : ConnectionFault)
  /-- An answer, with the part of its body that arrives. -/
  | answer (status : Nat) (body : List UInt8) (complete : Bool)
  deriving DecidableEq, Repr

/-- An answer as it is received: some statuses go without a body, whatever is sent
behind them. -/
def Reply.received (status : Nat) (sent : List UInt8) (complete : Bool) : Reply :=
  if hasBody status then .answer status sent complete else .answer status [] true

structure Client where
  endpoint : String
  key : String
  deriving DecidableEq, Repr

/-- What fetching a dataset gives, and what is reported on the way. -/
structure Fetched where
  result : Except FetchError (List FileDescriptor)
  events : List Event

namespace Client

def defaultEndpoint : String := "https://api.tilebox.com"

def methodPath : String := "/datasets.v1.DatasetService/GetDataset"

/-- A client without slashes at the end of its endpoint. -/
def ofEndpoint (endpoint key : String) : Client :=
  ⟨String.ofList (Text.dropTrailing (· = '/') endpoint.toList), key⟩

/-- The address that is called. -/
def address (c : Client) : String := c.endpoint ++ methodPath

/-- Whether a text can stand in a header. -/
def isHeaderText (s : String) : Bool :=
  s.toList.all fun c => c = '\t' || (decide (0x20 ≤ c.toNat) && c.toNat != 0x7F)

def request (c : Client) (slug : String) : Except TransportError HttpRequest :=
  match Url.parse c.address with
  | .error e => .error (.unbuildable (.badAddress e))
  | .ok url =>
    if !url.hasHost then .error (.unsupportedAddress url.text .scheme)
    else if !isHeaderText c.key then .error (.unbuildable .badKey)
    else if !url.isWeb then .error (.unsupportedAddress url.anonymous.text .scheme)
    else if !url.host?.all Host.isPlain then .error (.unsupportedAddress url.anonymous.text .host)
    else .ok ⟨url.anonymous, "Bearer " ++ c.key, "application/proto", "1", encodeQuestion slug⟩

/-- The dataset in an answer. -/
def datasetOf (c : Client) (url : Url) : Reply → Except FetchError Dataset
  | .nothing fault => .error (.transport c.address (.unsent url.text fault))
  | .answer status body complete =>
    if !complete then .error (.transport c.address .truncated)
    else if isSuccess status then (Dataset.decode body).mapError (.undecodable c.address)
    else
      .error (.refused c.address status (ErrorBody.ofAnswer status body).code
        (ErrorBody.ofAnswer status body).message)

/-- The descriptor set of a dataset, given what comes back for the request. -/
def fetch (c : Client) (ask : HttpRequest → Reply) (slug : String) : Fetched :=
  match c.request slug with
  | .error e => ⟨.error (.transport c.address e), []⟩
  | .ok question =>
    match c.datasetOf question.url (ask question) with
    | .error e => ⟨.error e, []⟩
    | .ok dataset =>
      ⟨match dataset.files? with
        | some files => .ok files
        | none => .error (.untyped slug),
       [.datasetFound dataset.name dataset.codeName]⟩

/-- The request that `fetch` sends. -/
def sent? (c : Client) (slug : String) : Option HttpRequest := (c.request slug).toOption

end Client

end Catalog

end Protogen
