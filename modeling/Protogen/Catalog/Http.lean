import Protogen.Catalog.Client

/-!
# Messages on the connection

How a request is written on a connection that serves it alone, and how the bytes
that come back until it is closed are read. The body of an answer is announced by
its length, sent in chunks, or all that follows the head.
-/

namespace Protogen

namespace Catalog

open Text

namespace HttpRequest

def headText (r : HttpRequest) : String :=
  "POST " ++ r.url.target ++ " HTTP/1.1\r\n" ++
    String.join
      ([("host", r.url.authority?.getD ""), ("authorization", r.authorization),
        ("content-type", r.contentType), ("connect-protocol-version", r.protocolVersion),
        ("accept", "*/*"), ("connection", "close"), ("content-length", toString r.body.length)].map
        fun (name, value) => name ++ ": " ++ value ++ "\r\n") ++ "\r\n"

def bytes (r : HttpRequest) : List UInt8 := utf8Bytes r.headText ++ r.body

end HttpRequest

namespace Reply

/-- A line up to its line feed, without its end, and what follows it. -/
def splitLine? (bs : List UInt8) : Option (List UInt8 × List UInt8) :=
  match bs.dropWhile (· != 10) with
  | [] => none
  | _ :: rest => some (dropTrailing (· = 13) (bs.takeWhile (· != 10)), rest)

/-- The lines of a head up to the empty one, and what follows it. Every line takes
a byte at least, so the length of the input is enough for `left`. -/
def splitHead? : Nat → List UInt8 → Option (List (List UInt8) × List UInt8)
  | 0, _ => none
  | left + 1, bs =>
    match splitLine? bs with
    | none => none
    | some ([], rest) => some ([], rest)
    | some (line, rest) => (splitHead? left rest).map fun (lines, rest) => (line :: lines, rest)

/-- The number behind the protocol version in the first line. -/
def status? (line : List UInt8) : Option Nat :=
  match (ofUtf8Lossy line).splitOn " " with
  | _ :: code :: _ => code.toNat?
  | _ => none

/-- The value of the header with a name in small letters. -/
def header? (name : String) (lines : List (List UInt8)) : Option String :=
  lines.findSome? fun line =>
    let cs := (ofUtf8Lossy line).toList
    if (String.ofList (cs.takeWhile (· != ':'))).toLower = name then
      some (trim (String.ofList ((cs.dropWhile (· != ':')).drop 1)))
    else none

def hexNumber? (bs : List UInt8) : Option Nat :=
  if bs.isEmpty then none
  else bs.foldl (fun n? b => do some ((← n?) * 16 + (← hexDigit? b))) (some 0)

/-- The content of chunks and whether the last of them has arrived. -/
def unchunked : Nat → List UInt8 → List UInt8 × Bool
  | 0, _ => ([], false)
  | left + 1, bs =>
    match splitLine? bs with
    | none => ([], false)
    | some (line, rest) =>
      match hexNumber? (line.takeWhile (· != 59)) with
      | none => ([], false)
      | some 0 => ([], true)
      | some n =>
        if rest.length < n then (rest, false)
        else
          let (more, complete) := unchunked left ((rest.drop n).dropWhile fun b => b = 13 || b = 10)
          (rest.take n ++ more, complete)

/-- The body behind a head, and whether it is complete. -/
def bodyOf (head : List (List UInt8)) (rest : List UInt8) : List UInt8 × Bool :=
  if header? "transfer-encoding" head = some "chunked" then unchunked rest.length rest
  else match (header? "content-length" head).bind String.toNat? with
    | some n => (rest.take n, n ≤ rest.length)
    | none => (rest, true)

/-- The reply that the bytes on a closed connection amount to. -/
def ofBytes (bs : List UInt8) : Reply :=
  match splitHead? bs.length bs with
  | some (first :: head, rest) =>
    match status? first with
    | some status => received status (bodyOf head rest).1 (bodyOf head rest).2
    | none => .nothing .closed
  | _ => .nothing .closed

end Reply

end Catalog

end Protogen
