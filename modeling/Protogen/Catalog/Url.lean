import Protogen.Catalog.Host

/-!
# Addresses

An address is read leniently: blanks and controls around it and line breaks in it
are dropped, letters of the scheme become small, dot segments of the path are
resolved, and characters that may not stand in an address are written as percent
signs and digits. For the schemes of the web a backslash is a slash and the
standard port is left out. The path of a file may begin with the letter of a
drive, which no dots lead out of.
-/

namespace Protogen

namespace Catalog

open Text

/-- User and password, both written safely. A password that is there is not
empty. -/
structure Credentials where
  user : String
  password? : Option String
  deriving DecidableEq, Repr

structure Url where
  scheme : String
  credentials? : Option Credentials
  /-- The host, which may be empty, if there is a place for one. -/
  host? : Option Host
  port? : Option Nat
  path : String
  query? : Option String
  fragment? : Option String
  deriving DecidableEq, Repr

namespace Url

/-- The schemes of the web, with their standard ports. -/
def standardPorts : List (String × Nat) :=
  [("http", 80), ("https", 443), ("ftp", 21), ("ws", 80), ("wss", 443)]

def isWebScheme (scheme : String) : Bool := (standardPorts.lookup scheme).isSome

/-- Whether a backslash is a slash in addresses of the scheme. -/
def isTreeScheme (scheme : String) : Bool := isWebScheme scheme || scheme = "file"

def isEdge (c : Char) : Bool := decide (c.toNat ≤ 0x20)

/-- The characters of an address that count. -/
def cleaned (text : String) : List Char :=
  ((text.toList.dropWhile isEdge).reverse.dropWhile isEdge).reverse.filter fun c =>
    c != '\t' && c != '\n' && c != '\r'

def fragmentEscapes : List Char := [' ', '"', '<', '>', '\x60']

def pathEscapes : List Char := fragmentEscapes ++ ['#', '?', '\x7b', '\x7d']

def queryEscapes (scheme : String) : List Char :=
  [' ', '"', '#', '<', '>'] ++ if isTreeScheme scheme then ['\''] else []

def userEscapes : List Char := pathEscapes ++ ['/', ':', ';', '=', '@', '[', '\\', ']', '^', '|']

def isSchemeChar (c : Char) : Bool := c.isAlphanum || c = '+' || c = '-' || c = '.'

/-- The scheme in small letters, and what follows the colon behind it. -/
def splitScheme (cs : List Char) : Except UrlError (String × List Char) :=
  match cs.takeWhile isSchemeChar, cs.dropWhile isSchemeChar with
  | c :: scheme, ':' :: rest =>
    if c.isAlpha then .ok (String.ofList ((c :: scheme).map Char.toLower), rest)
    else .error .noScheme
  | _, _ => .error .noScheme

/-- What is before the last `c` and what is behind it. -/
def splitLast (c : Char) (cs : List Char) : Option (List Char) × List Char :=
  let behind := (cs.reverse.takeWhile (· != c)).reverse
  if behind.length < cs.length then (some (cs.take (cs.length - behind.length - 1)), behind)
  else (none, cs)

/-- The port that digits name, left out if it is the standard one. -/
def portOf (scheme : String) (digits : List Char) : Except UrlError (Option Nat) :=
  match digits.all Char.isDigit, Host.numberIn? 10 digits with
  | true, some n =>
    if 65535 < n then .error .badPort
    else if digits.isEmpty || standardPorts.lookup scheme == some n then .ok none
    else .ok (some n)
  | _, _ => .error .badPort

/-- The host, and the colon and the port behind it. A host in brackets may hold
colons. -/
def splitHost (inside : Bool) : List Char → List Char × List Char
  | [] => ([], [])
  | c :: cs =>
    if c = ':' && !inside then ([], c :: cs)
    else
      let (host, rest) := splitHost (c = '[' || (inside && c != ']')) cs
      (c :: host, rest)

/-- User and password, if there is one of them. -/
def credentialsOf (cs : List Char) : Option Credentials :=
  let user := String.ofList (percentEncoded userEscapes (cs.takeWhile (· != ':')))
  let password := String.ofList (percentEncoded userEscapes ((cs.dropWhile (· != ':')).drop 1))
  if password.isEmpty then if user.isEmpty then none else some ⟨user, none⟩
  else some ⟨user, some password⟩

/-- Credentials, host and port. Only a host outside the web may be empty, and only
if nothing else is there. -/
def authorityOf (scheme : String) (cs : List Char) :
    Except UrlError (Option Credentials × Host × Option Nat) := do
  let (user?, rest) := splitLast '@' cs
  let credentials? := user?.bind credentialsOf
  let (host, port) := splitHost false rest
  if host.isEmpty &&
      (isWebScheme scheme || !port.isEmpty || credentials?.isSome || user? == some []) then
    .error .noHost
  else
    let host ← if isWebScheme scheme then Host.ofWeb host else Host.ofOther host
    let port? ← portOf scheme (port.drop 1)
    .ok (credentials?, host, port?)

def isSingleDot (segment : String) : Bool := segment = "." || segment.toLower = "%2e"

def isDoubleDot (segment : String) : Bool :=
  ["..", ".%2e", "%2e.", "%2e%2e"].contains segment.toLower

/-- A letter with a colon, or with a bar instead. -/
def isDrive (segment : String) : Bool :=
  match segment.toList with
  | [letter, mark] => letter.isAlpha && (mark = ':' || mark = '|')
  | _ => false

/-- What two dots leave of the segments above them, the nearest first. -/
def climb : List String → List String
  | [] => []
  | segment :: above => if isDrive segment then segment :: above else above

/-- The segments of a path without dots; `above` are those before, the nearest
first. A path that ends in dots ends in a slash. -/
def resolveSegments (above : List String) : List String → List String
  | [] => above.reverse
  | segment :: rest =>
    if isDoubleDot segment then
      if rest.isEmpty then (("" :: climb above).reverse) else resolveSegments (climb above) rest
    else if isSingleDot segment then
      if rest.isEmpty then (("" :: above).reverse) else resolveSegments above rest
    else resolveSegments (segment :: above) rest

def segmentsOf (cs : List Char) : List String :=
  (cs.splitOn '/').map fun s => String.ofList (percentEncoded pathEscapes s)

def pathOf (segments : List String) : String := "/" ++ "/".intercalate segments

/-- A path in a tree of paths, from the characters behind its first slash. -/
def treePath (cs : List Char) : String := pathOf (resolveSegments [] (segmentsOf cs))

/-- Gives the letter of a drive at the front of a path a colon and a segment of its
own. -/
def withDrive : List Char → List Char
  | letter :: mark :: rest =>
    if !letter.isAlpha then letter :: mark :: rest
    else match mark, rest with
      | '|', [] => [letter, ':']
      | '|', '/' :: path => letter :: ':' :: '/' :: path
      | ':', c :: path => letter :: ':' :: (if c = '/' then c :: path else '/' :: c :: path)
      | _, _ => letter :: mark :: rest
  | cs => cs

def isSlash (c : Char) : Bool := c = '/' || c = '\\'

def slashed (c : Char) : Char := if c = '\\' then '/' else c

/-- The path of a file, which begins with one slash. -/
def filePath (cs : List Char) : String :=
  pathOf ((resolveSegments [] (segmentsOf (withDrive cs))).dropWhile String.isEmpty)

def isDriveText (cs : List Char) : Bool := isDrive (String.ofList cs)

/-- The host of a file. The name of the own machine counts as none, and so does
every host before the letter of a drive. -/
def fileHost (cs path : List Char) : Except UrlError Host :=
  if cs.isEmpty then .ok (.named "")
  else
    (Host.ofWeb cs).map fun host =>
      if host = .named "localhost" || isDriveText (path.takeWhile (· != '/')) then .named ""
      else host

/-- The address of a file, from the characters behind the scheme. -/
def ofFile (cs : List Char) (query? fragment? : Option String) : Except UrlError Url :=
  match cs.map slashed with
  | '/' :: '/' :: rest => do
    let first := rest.takeWhile (· != '/')
    if isDriveText first then
      .ok ⟨"file", none, some (.named ""), none, filePath rest, query?, fragment?⟩
    else
      let path := (rest.dropWhile (· != '/')).drop 1
      let host ← fileHost first path
      .ok ⟨"file", none, some host, none, filePath path, query?, fragment?⟩
  | '/' :: rest => .ok ⟨"file", none, some (.named ""), none, filePath rest, query?, fragment?⟩
  | rest => .ok ⟨"file", none, some (.named ""), none, filePath rest, query?, fragment?⟩

/-- The address with the part before its query. -/
def ofBase (scheme : String) (cs : List Char) (query? fragment? : Option String) :
    Except UrlError Url :=
  if scheme = "file" then ofFile cs query? fragment?
  else if isWebScheme scheme then do
    let cs := (cs.map slashed).dropWhile isSlash
    let (credentials?, host, port?) ← authorityOf scheme (cs.takeWhile (· != '/'))
    .ok ⟨scheme, credentials?, some host, port?, treePath ((cs.dropWhile (· != '/')).drop 1),
      query?, fragment?⟩
  else match cs with
    | '/' :: '/' :: rest => do
      let (credentials?, host, port?) ← authorityOf scheme (rest.takeWhile (· != '/'))
      let path := match rest.dropWhile (· != '/') with
        | [] => ""
        | _ :: path => treePath path
      .ok ⟨scheme, credentials?, some host, port?, path, query?, fragment?⟩
    | '/' :: rest => .ok ⟨scheme, none, none, none, treePath rest, query?, fragment?⟩
    | rest =>
      .ok ⟨scheme, none, none, none, String.ofList (percentEncoded [] rest), query?, fragment?⟩

/-- What follows a mark, written safely. -/
def partBehind? (mark : Char) (escaped cs : List Char) : Option String :=
  match cs.dropWhile (· != mark) with
  | [] => none
  | _ :: rest => some (String.ofList (percentEncoded escaped rest))

def parse (text : String) : Except UrlError Url := do
  let (scheme, cs) ← splitScheme (cleaned text)
  let beforeFragment := cs.takeWhile (· != '#')
  ofBase scheme (beforeFragment.takeWhile (· != '?'))
    (partBehind? '?' (queryEscapes scheme) beforeFragment) (partBehind? '#' fragmentEscapes cs)

/-- Host and port. -/
def authority? (url : Url) : Option String :=
  url.host?.map fun host => host.text ++ (url.port?.map fun n => ":" ++ toString n).getD ""

def hasHost (url : Url) : Bool := url.host?.any fun host => host != .named ""

/-- What a request asks the host for. -/
def target (url : Url) : String :=
  (if url.path.isEmpty then "/" else url.path) ++ (url.query?.map ("?" ++ ·)).getD ""

def credentialsText (c : Credentials) : String :=
  c.user ++ (c.password?.map (":" ++ ·)).getD "" ++ "@"

/-- The mark before a path that could be taken for a host. -/
def pathMark (url : Url) : String :=
  if url.host?.isNone && url.path.startsWith "//" then "/." else ""

def text (url : Url) : String :=
  url.scheme ++ ":" ++
    (url.authority?.map
      ("//" ++ (url.credentials?.map credentialsText).getD "" ++ ·)).getD "" ++
    url.pathMark ++ url.path ++ (url.query?.map ("?" ++ ·)).getD "" ++
    (url.fragment?.map ("#" ++ ·)).getD ""

def isReadable (text : String) : Bool := (percentDecoded? text.toList).isSome

/-- Whether credentials can be told to the host apart from the address: the user
is a text, and there is a user or a password that is one. -/
def areSpeakable (c : Credentials) : Bool :=
  isReadable c.user && (!c.user.isEmpty || c.password?.any isReadable)

/-- The address without credentials that can be told apart from it. -/
def anonymous (url : Url) : Url :=
  if url.credentials?.any areSpeakable then { url with credentials? := none } else url

def isWeb (url : Url) : Bool := url.scheme = "http" || url.scheme = "https"

end Url

end Catalog

end Protogen
