import Protogen.Catalog.Url
import Protogen.Wire.Decode

/-!
# Why a dataset is not fetched

Every message begins with the endpoint that was called, or with the dataset.
Below a message there may be causes that it does not mention; `causes` lists
them from the outside in.
-/

namespace Protogen

namespace Catalog

open Wire

/-- Why no answer arrives. -/
inductive ConnectionFault
  /-- Nobody answers at the address. -/
  | refused
  /-- The connection ends before the answer begins. -/
  | closed
  deriving DecidableEq, Repr

def ConnectionFault.causes : ConnectionFault → List String
  | refused =>
    ["client error (Connect)", "tcp connect error", "Connection refused (os error 111)"]
  | closed => ["client error (SendRequest)", "connection closed before message completed"]

/-- Why no request can be made from the endpoint and the key. -/
inductive RequestFault
  | badAddress (cause : UrlError)
  /-- The key cannot stand in a header. -/
  | badKey
  deriving DecidableEq, Repr

def RequestFault.message : RequestFault → String
  | badAddress cause => cause.message
  | badKey => "failed to parse header value"

/-- Why no request can be sent to an address. -/
inductive AddressFault
  /-- There is no host, or the scheme is not one for requests. -/
  | scheme
  /-- The host holds characters that no request can hold. -/
  | host
  deriving DecidableEq, Repr

def AddressFault.message : AddressFault → String
  | scheme => "URL scheme is not allowed"
  | host => "Parsed Url is not a valid Uri"

/-- What fails on the way to the catalog or back. -/
inductive TransportError
  | unbuildable (fault : RequestFault)
  | unsupportedAddress (url : String) (fault : AddressFault)
  | unsent (url : String) (fault : ConnectionFault)
  /-- The answer ends before its announced length. -/
  | truncated
  deriving DecidableEq, Repr

namespace TransportError

def message : TransportError → String
  | unbuildable _ => "builder error"
  | unsupportedAddress url _ => "builder error for url (" ++ url ++ ")"
  | unsent url _ => "error sending request for url (" ++ url ++ ")"
  | truncated => "error decoding response body"

def causes : TransportError → List String
  | unbuildable fault => [fault.message]
  | unsupportedAddress _ fault => [fault.message]
  | unsent _ fault => fault.causes
  | truncated =>
    ["request or response body error", "error reading a body from connection",
     "end of file before message length reached"]

end TransportError

inductive FetchError
  | transport (endpoint : String) (cause : TransportError)
  /-- The catalog answers with a failure status. -/
  | refused (endpoint : String) (status : Nat) (code message : String)
  | undecodable (endpoint : String) (cause : DecodeError)
  /-- The dataset has no type, or its type no descriptor set. -/
  | untyped (slug : String)
  deriving DecidableEq, Repr

namespace FetchError

def message : FetchError → String
  | transport endpoint cause => "HTTP error calling " ++ endpoint ++ ": " ++ cause.message
  | refused endpoint status code message =>
    endpoint ++ " returned " ++ toString status ++ " (" ++ code ++ "): " ++ message
  | undecodable endpoint cause =>
    "failed to decode response from " ++ endpoint ++ ": " ++ cause.message
  | untyped slug => "dataset " ++ slug ++ " has no type descriptor"

def causes : FetchError → List String
  | transport _ cause => cause.message :: cause.causes
  | undecodable _ cause => [cause.message]
  | refused _ _ _ _ | untyped _ => []

end FetchError

end Catalog

end Protogen
