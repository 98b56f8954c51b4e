import Walkthrough.Fault
import Walkthrough.Number.Read
import Walkthrough.Service.Host
import Walkthrough.Text.Utf8

/-!
Addresses of requests: a scheme, an authority (a user, a host and a port), a path, a query and a
fragment, each but the path with its mark. `Address.read` takes one apart and says what is wrong with
it, and `Address.target` is the path that it leads to, written out. An address without a scheme and a
host is meant below the root of the service.
-/

namespace Walkthrough

open Text

structure Address where
  scheme : String
  /-- Without the brackets around groups of digits. -/
  host : List Char
  port : Option Int
  path : List Char

namespace Address

/-- An address that cannot be read. -/
def invalid (message : String) : Foreign := ⟨.address, message⟩

/-- Code points of the longest address. -/
def lengthLimit : Nat := 65536

def isControl (n : Nat) : Bool := n < 0x20 || n == 0x7F

/-- Refuses control characters. -/
def checkControls (points : CodePoints) : Except Foreign Unit :=
  match points.findIdx? isControl with
  | none => .ok ()
  | some i =>
    .error (invalid ("Invalid non-printable ASCII character in URL, " ++
      quoted (CodePoints.text (points.drop i |>.take 1)) ++ " at position " ++ toString i ++ "."))

/-- Refuses a part with a surrogate, whose bytes would be written one character after the other. -/
def checkWhole (part : List Char) : Except Foreign Unit :=
  match (points part).find? isSurrogate with
  | none => .ok ()
  | some n => .error ⟨.encoding, (Utf8.Unwritable.mk 0 1 n).message⟩

def isSchemeChar (c : Char) : Bool := c.isAlphanum || c == '+' || c == '.' || c == '-'

/-- The scheme before the first colon, which can be empty, and what follows. -/
def splitScheme (cs : List Char) : List Char × List Char :=
  let front := cs.takeWhile isSchemeChar
  match front, cs.dropWhile isSchemeChar with
  | [], ':' :: rest => ([], rest)
  | c :: _, ':' :: rest => if c.isAlpha then (front, rest) else ([], cs)
  | _, _ => ([], cs)

/-- The authority behind two slashes, and what follows. -/
def splitAuthority : List Char → List Char × List Char
  | '/' :: '/' :: rest => splitAtFirst (fun c => c == '/' || c == '?' || c == '#') rest
  | cs => ([], cs)

/-- The text up to the last `mark`, which is part of it, and what follows. -/
def splitAfterLast (mark : Char) (cs : List Char) : List Char × List Char :=
  let (after, upTo) := splitAtFirst (· == mark) cs.reverse
  (upTo.reverse, after.reverse)

/-- The host, groups of digits with their brackets, and what follows. -/
def splitHost (cs : List Char) : List Char × List Char :=
  match cs, splitAfterLast ']' cs with
  | '[' :: _, (c :: host, rest) => (c :: host, rest)
  | _, _ => splitAtFirst (· == ':') cs

/-- The host without its brackets. Numbers must be in order. -/
def readHost (cs : List Char) : Except Foreign (List Char) :=
  let fault (kind : String) : Foreign :=
    invalid ("Invalid " ++ kind ++ ": " ++ quoted (String.ofList cs))
  if Host.resemblesQuad cs then if Host.isQuad cs then .ok cs else .error (fault "IPv4 address")
  else if cs.head? = some '[' ∧ cs.getLast? = some ']' then
    let inner := cs.tail.dropLast
    if Host.isGrouped inner then .ok inner else .error (fault "IPv6 address")
  else if (points cs).any isSurrogate then .error (fault "IDNA hostname")
  else .ok cs

/-- Drops each underscore between two digits. -/
def joinDigits : List Char → List Char
  | a :: '_' :: b :: rest =>
    if (digitValue a).isSome && (digitValue b).isSome then a :: joinDigits (b :: rest)
    else a :: '_' :: joinDigits (b :: rest)
  | c :: rest => c :: joinDigits rest
  | [] => []

/-- The ports that schemes have where none is given. -/
def usualPorts : List (String × Int) :=
  [("ftp", 21), ("http", 80), ("https", 443), ("ws", 80), ("wss", 443)]

/-- The port behind the host; the usual one of the scheme, as it is written, says nothing. -/
def readPort (scheme cs : List Char) : Except Foreign (Option Int) :=
  let digits := if cs.head? = some ':' then cs.tail else cs
  if digits.isEmpty then .ok none
  else match Number.readInt 10 (joinDigits digits) with
    | .error _ => .error (invalid ("Invalid port: " ++ quoted (String.ofList digits)))
    | .ok n => .ok (if usualPorts.contains (String.ofList scheme, n) then none else some n)

/-- The segments of a path without those that are a point; two points take back the segment before
them. -/
def settle (segments : List (List Char)) : List (List Char) :=
  segments.foldl (fun done segment =>
    if segment = ['.'] then done
    else if segment = ['.', '.'] then if done = [[]] then done else done.dropLast
    else done ++ [segment]) []

/-- A path without segments of points. -/
def settlePath (path : List Char) : List Char := ['/'].intercalate (settle (splitOnChar '/' path))

/-- Refuses a path that would be something else in front of an address. -/
def checkFront (path : List Char) : Except Foreign Unit :=
  if ['/', '/'].isPrefixOf path then
    .error (invalid "Relative URLs cannot have a path starting with '//'")
  else if path.head? = some ':' then
    .error (invalid "Relative URLs cannot have a path starting with ':'")
  else .ok ()

/-- An address taken apart. -/
def read (text : String) : Except Foreign Address := do
  if lengthLimit < Text.length text then throw (invalid "URL too long")
  checkControls (points text.toList)
  let (scheme, rest) := splitScheme text.toList
  let (authority, rest) := splitAuthority rest
  let (path, rest) := splitAtFirst (fun c => c == '?' || c == '#') rest
  let (user, place) := splitAfterLast '@' authority
  let (host, port) := splitHost place
  checkWhole user
  let host ← readHost host
  let port ← readPort scheme port
  let isBare := scheme.isEmpty && user.length ≤ 1 && host.isEmpty && port.isNone
  if isBare then checkFront path
  let path := if isBare then path else settlePath path
  checkWhole path
  checkWhole rest
  return { scheme := String.ofList (scheme.map Char.toLower), host, port, path }

/-- Whether an address stands for itself. -/
def isAbsolute (a : Address) : Bool := a.scheme ≠ "" && !a.host.isEmpty

/-- Each byte that is written as a `%` and two hexadecimal digits, written out. Bytes beyond ASCII are
parts of other characters, for which the replacement character stands. -/
def unescape : List Char → List Char
  | '%' :: a :: b :: rest =>
    match hexValue a, hexValue b with
    | some high, some low =>
      (if high < 8 then Char.ofNat (16 * high + low) else '\uFFFD') :: unescape rest
    | _, _ => '%' :: unescape (a :: b :: rest)
  | c :: rest => c :: unescape rest
  | [] => []

/-- The path that an address leads to. It is written out twice, first as an address and then as a path
of the service. -/
def target (a : Address) : List Char :=
  let path := if a.isAbsolute then a.path else settlePath ('/' :: a.path.dropWhile (· == '/'))
  unescape (unescape path)

/-- Refuses an address that requests cannot be sent to: one of another scheme, or one whose host holds
colons, as what follows the first of them is no port. -/
def checkServed (a : Address) : Except Foreign Unit :=
  if !a.isAbsolute then .ok ()
  else if a.scheme ≠ "http" ∧ a.scheme ≠ "https" then .error (.missingKey a.scheme)
  else match splitAtFirst (· == ':') a.host with
    | (_, []) => .ok ()
    | (_, _ :: rest) =>
      let port := match a.port with
        | none => ""
        | some n => ":" ++ toString n
      .error ⟨.value, Number.malformedText 10 (String.ofList rest ++ "]" ++ port)⟩

end Address

end Walkthrough
