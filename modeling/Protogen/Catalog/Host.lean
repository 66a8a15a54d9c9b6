import Protogen.Catalog.Domain
import Protogen.Text.Percent

/-!
# Hosts

On the web a host is a domain name or a numeric address. Four-part addresses are
read generously: their parts may be decimal, octal or hexadecimal, and the last
part fills all bytes that are left. Eight-part addresses stand in brackets and
are written with their longest row of zeros left out. Elsewhere a host is any
text without separators.
-/

namespace Protogen

namespace Catalog

open Text

inductive Host
  /-- A domain name, or a host that means something to its scheme only. -/
  | named (text : String)
  | fourPart (address : Nat)
  | eightPart (parts : List Nat)
  deriving DecidableEq, Repr

/-- Why a text is no address. -/
inductive UrlError
  | noScheme
  | noHost
  | badDomain
  | badFourPart
  | badEightPart
  | badHostChar
  | badPort
  deriving DecidableEq, Repr

def UrlError.message : UrlError → String
  | noScheme => "relative URL without a base"
  | noHost => "empty host"
  | badDomain => "invalid international domain name"
  | badFourPart => "invalid IPv4 address"
  | badEightPart => "invalid IPv6 address"
  | badHostChar => "invalid domain character"
  | badPort => "invalid port number"

namespace Host

/-- A number to some base, if all characters are digits of it. No digits at all
make zero. -/
def numberIn? (base : Nat) (cs : List Char) : Option Nat :=
  cs.foldl
    (fun n? c => do
      let n ← n?
      let d ← hexDigit? (UInt8.ofNat (min c.toNat 0xFF))
      if d < base then some (n * base + d) else none)
    (some 0)

/-- The number that a part of a four-part address is. -/
def partNumber? : List Char → Option Nat
  | [] => none
  | '0' :: 'x' :: cs => numberIn? 16 cs
  | '0' :: 'X' :: cs => numberIn? 16 cs
  | '0' :: c :: cs => numberIn? 8 (c :: cs)
  | cs => numberIn? 10 cs

/-- The parts of a domain; an empty one at the end does not count. -/
def domainParts (cs : List Char) : List (List Char) :=
  match (cs.splitOn '.').reverse with
  | [] :: above => above.reverse
  | parts => parts.reverse

/-- Whether a domain has to be read as a numeric address. -/
def endsInNumber (cs : List Char) : Bool :=
  match (domainParts cs).getLast? with
  | some part => (!part.isEmpty && part.all Char.isDigit) || (partNumber? part).isSome
  | none => false

/-- The address whose parts are the given numbers, of which the last fills the
bytes that the others leave. -/
def ofPartNumbers? (numbers : List Nat) : Option Nat :=
  match numbers.reverse with
  | [] => none
  | last :: above =>
    if 4 < numbers.length || above.any (fun n => decide (255 < n)) ||
        decide (Nat.pow 256 (5 - numbers.length) ≤ last) then none
    else
      some
        (above.reverse.foldl (fun n part => n * 256 + part) 0 * Nat.pow 256 (5 - numbers.length) +
          last)

def fourPart? (cs : List Char) : Option Host :=
  (((domainParts cs).mapM partNumber?).bind ofPartNumbers?).map fourPart

/-- A byte in plain decimal digits. -/
def byteNumber? (cs : List Char) : Option Nat :=
  match cs with
  | [] => none
  | '0' :: _ :: _ => none
  | _ => (numberIn? 10 cs).filter (· ≤ 255)

/-- Two groups from four bytes with dots between them. -/
def dottedGroups? (cs : List Char) : Option (List Nat) :=
  match (cs.splitOn '.').mapM byteNumber? with
  | some [a, b, c, d] => some [a * 256 + b, c * 256 + d]
  | _ => none

def hexGroup? (cs : List Char) : Option Nat :=
  if cs.isEmpty || 4 < cs.length then none else numberIn? 16 cs

/-- Groups with colons between them, of which the last may be four bytes. -/
def groups? : List (List Char) → Option (List Nat)
  | [] => some []
  | [last] => if last.contains '.' then dottedGroups? last else (hexGroup? last).map fun n => [n]
  | cs :: rest => do
    let n ← hexGroup? cs
    let ns ← groups? rest
    some (n :: ns)

/-- Groups on one side of two colons; there may be none. -/
def sideGroups? (cs : List Char) : Option (List Nat) :=
  if cs.isEmpty then some [] else groups? (cs.splitOn ':')

/-- What is before the first two colons in a row and what is behind them. -/
def splitColons? : List Char → Option (List Char × List Char)
  | ':' :: ':' :: rest => some ([], rest)
  | c :: rest => (splitColons? rest).map fun (before, behind) => (c :: before, behind)
  | [] => none

def eightPart? (cs : List Char) : Option Host :=
  match splitColons? cs with
  | none => ((groups? (cs.splitOn ':')).filter fun ns => ns.length == 8).map eightPart
  | some (before, behind) => do
    let left ← if before.contains '.' then none else sideGroups? before
    let right ← sideGroups? behind
    if 7 < left.length + right.length then none
    else some (eightPart (left ++ List.replicate (8 - left.length - right.length) 0 ++ right))

def fourPartText (address : Nat) : String :=
  ".".intercalate
    ([0x1000000, 0x10000, 0x100, 1].map fun unit => toString (address / unit % 256))

def zerosFrom (parts : List Nat) (start : Nat) : Nat :=
  ((parts.drop start).takeWhile (· == 0)).length

/-- The start of the first longest row of zeros, with its length. -/
def longestZeros (parts : List Nat) : Nat × Nat :=
  (List.range parts.length).foldl
    (fun best start =>
      if best.2 < zerosFrom parts start then (start, zerosFrom parts start) else best)
    (0, 0)

def groupsText (parts : List Nat) : String :=
  ":".intercalate (parts.map fun n => String.ofList (Nat.toDigits 16 n))

def eightPartText (parts : List Nat) : String :=
  let (start, count) := longestZeros parts
  if count < 2 then groupsText parts
  else groupsText (parts.take start) ++ "::" ++ groupsText (parts.drop (start + count))

def text : Host → String
  | named text => text
  | fourPart address => fourPartText address
  | eightPart parts => "[" ++ eightPartText parts ++ "]"

/-- The inside of brackets, if the host begins with one. -/
def bracketed? : List Char → Option (Except UrlError Host)
  | '[' :: rest =>
    some (match rest.getLast? with
      | some ']' => (eightPart? rest.dropLast).elim (.error .badEightPart) .ok
      | _ => .error .badEightPart)
  | _ => none

/-- A host of the web. -/
def ofWeb (cs : List Char) : Except UrlError Host :=
  (bracketed? cs).getD
    (match (percentDecoded? cs).bind fun s => Domain.toAscii? s.toList with
    | none => .error .badDomain
    | some domain =>
      if domain.isEmpty then .error .noHost
      else if endsInNumber domain then (fourPart? domain).elim (.error .badFourPart) .ok
      else .ok (named (String.ofList domain)))

/-- Characters that no host has, wherever it is. -/
def separators : List Char :=
  ['\x00', '\t', '\n', '\r', ' ', '#', '/', ':', '<', '>', '?', '@', '[', '\\', ']', '^', '|']

/-- A host that means something to its scheme only. -/
def ofOther (cs : List Char) : Except UrlError Host :=
  (bracketed? cs).getD
    (if cs.any separators.contains then .error .badHostChar
    else .ok (named (String.ofList (percentEncoded [] cs))))

/-- Whether a request can be sent to the host. -/
def isPlain (host : Host) : Bool :=
  host.text.toList.all fun c => !(['"', '\x60', '\x7b', '\x7d'].contains c)

end Host

end Catalog

end Protogen
