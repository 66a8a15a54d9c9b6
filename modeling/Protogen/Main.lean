import Protogen.Catalog.Http
import Protogen.Invocation
import Std.Async.DNS
import Std.Async.TCP

/-!
# The program

Reads arguments and environment, exchanges one request with the catalog, and
carries out what the invocation decides: the generated file is written, and what
is reported goes to the error output. Only endpoints without encryption can be
reached, and no other program can be started from here.
-/

open Protogen Protogen.Catalog Protogen.CommandLine Protogen.Files

namespace Protogen

namespace Program

/-- Everything that arrives until the connection is closed. -/
partial def receive (socket : Std.Async.TCP.Socket.Client) (got : ByteArray) :
    Std.Async.Async ByteArray := do
  match ← socket.recv? 65536 with
  | some more => receive socket (got ++ more)
  | none => pure got

/-- The host and the port of an address. -/
def hostAndPort (url : Url) : String × Nat :=
  let behindUser := (Url.splitLast '@' (url.authority?.getD "").toList).2
  match Url.splitLast ':' behindUser with
  | (some host, port) => (String.ofList host, ((String.ofList port).toNat?).getD 80)
  | (none, host) => (String.ofList host, 80)

def connected (address : Std.Net.SocketAddress) (request : HttpRequest) :
    Std.Async.Async ByteArray := do
  let socket ← Std.Async.TCP.Socket.Client.mk
  socket.connect address
  socket.send ⟨request.bytes.toArray⟩
  receive socket ByteArray.empty

def exchange (request : HttpRequest) : IO Reply := do
  let (host, port) := hostAndPort request.url
  if request.url.scheme != "http" then return .nothing .refused
  try
    let found ← (Std.Async.DNS.getAddrInfo host (toString port)).block
    match found[0]? with
    | none => return .nothing .refused
    | some found =>
      let address : Std.Net.SocketAddress := match found with
        | .v4 ip => .v4 ⟨ip, port.toUInt16⟩
        | .v6 ip => .v6 ⟨ip, port.toUInt16⟩
      let bytes ← (connected address request).block
      return Reply.ofBytes bytes.data.toList
  catch _ => return .nothing .refused

/-- The error of the system that is met here. -/
def osErrorOf : IO.Error → OsError
  | .noFileOrDirectory _ _ _ => .missing
  | .alreadyExists _ _ _ => .alreadyExists
  | .inappropriateType _ code _ => if code = 21 then .isDirectory else .notDirectory
  | .invalidArgument _ code _ => if code = 40 then .tooManyLinks else .nameTooLong
  | .hardwareFault _ _ => .deviceFault
  | .resourceExhausted _ code _ =>
    if code = 27 then .fileTooLarge else if code = 122 then .quotaExceeded else .noSpace
  | .permissionDenied _ code _ => if code = 30 then .readOnly else .permissionDenied
  | _ => .permissionDenied

/-- Writes a file that may be there already. A new one is closed to others. -/
def writeFile (path : String) (content : ByteArray) : IO Unit := do
  try
    let handle ← IO.FS.Handle.mk path .writeNew
    handle.write content
    IO.setAccessRights path ⟨⟨true, true, false⟩, ⟨true, false, false⟩, ⟨false, false, false⟩⟩
  catch
    | .alreadyExists _ _ _ => IO.FS.writeBinFile path content
    | e => throw e

def isDirectory (path : String) : IO Bool := do
  try
    let _ ← IO.FS.realPath (path ++ "/.")
    return true
  catch _ => return false

/-- Makes the first of the directories, each of which is inside the next one, and
those of the others that it needs. -/
def makeDirectories : List String → IO Unit
  | [] => pure ()
  | path :: above => do
    try IO.FS.createDir path
    catch
      | .noFileOrDirectory _ _ _ =>
        makeDirectories above
        try IO.FS.createDir path
        catch e => if !(← isDirectory path) then throw e
      | e => if !(← isDirectory path) then throw e

/-- Writes an artifact with the directories above it. -/
def writeArtifact (path : String) (content : ByteArray) : IO (Except ArtifactError Unit) := do
  try makeDirectories (ancestors path).tail
  catch e => return .error (.directory (parent path) (osErrorOf e))
  try
    writeFile path content
    return .ok ()
  catch e => return .error (.file path (.failed (osErrorOf e)))

/-- The outcome after the artifact that it promises has been written. -/
def carriedOut (outcome : Outcome) : IO Outcome := do
  match outcome.events.getLast? with
  | some (.fileWritten path) =>
    match ← writeArtifact path ⟨((outcome.tree.read? path).getD []).toArray⟩ with
    | .ok () => return outcome
    | .error e =>
      return { outcome with
        exitCode := 1
        events := outcome.events.dropLast ++ [.generationFailed (Failure.unwritten e).report] }
  | _ => return outcome

def surroundings (reply : Reply) : IO Surroundings := do
  return ⟨⟨← IO.getEnv "TILEBOX_API_KEY", ← IO.getEnv "TILEBOX_API_URL"⟩, ← IO.getEnv "RUST_LOG",
    fun _ => reply, fun _ => .error .permissionDenied, .sound, ⟨[], []⟩⟩

end Program

end Protogen

def main (arguments : List String) : IO UInt32 := do
  let unanswered ← Program.surroundings (.nothing .refused)
  let reply ← match (Invocation.run unanswered arguments).request? with
    | some request => Program.exchange request
    | none => pure (.nothing .refused)
  let answered ← Program.surroundings reply
  let outcome ← Program.carriedOut (Invocation.run answered arguments)
  IO.print outcome.output
  for line in outcome.lines (Invocation.verbosity answered) do IO.eprintln line
  return outcome.exitCode.toUInt32
