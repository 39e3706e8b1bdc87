import SignIn.Url.Percent

/-!
# URLs

A URL is kept in its parts, each in the form in which it is written.  Writing a URL
only joins the parts.

## Main definitions

* `Host`, `Authority`, `Path`, `Url` — the parts.
* `Fault` — why a text is no URL.
* `Scheme` — the kinds of schemes that are read differently.
* `Url.text` — the written form.
-/

namespace SignIn.Url

/-- Why a text is no URL. -/
inductive Fault where
  /-- The host is empty where one is needed. -/
  | emptyHost
  /-- The host is no domain name. -/
  | invalidDomain
  /-- The port is no number of sixteen bits. -/
  | invalidPort
  /-- A host that ends in a number is no IPv4 address. -/
  | invalidIpv4
  /-- A host in brackets is no IPv6 address. -/
  | invalidIpv6
  /-- A host has a character that hosts never have. -/
  | invalidHostCharacter
  /-- A relative reference stands alone. -/
  | relativeWithoutBase
  /-- A relative reference against a base that has no hierarchy. -/
  | relativeToOpaqueBase
  deriving DecidableEq, Repr

/-- The words for a fault. -/
def Fault.message : Fault → String
  | .emptyHost => "empty host"
  | .invalidDomain => "invalid international domain name"
  | .invalidPort => "invalid port number"
  | .invalidIpv4 => "invalid IPv4 address"
  | .invalidIpv6 => "invalid IPv6 address"
  | .invalidHostCharacter => "invalid domain character"
  | .relativeWithoutBase => "relative URL without a base"
  | .relativeToOpaqueBase => "relative URL with a cannot-be-a-base base"

/-- The kinds of schemes that are read differently. -/
inductive SchemeKind where
  /-- The scheme `file`. -/
  | file
  /-- The web schemes, whose URLs always have a host. -/
  | web
  /-- Any other scheme. -/
  | other
  deriving DecidableEq, Repr

/-- The kind of a scheme. -/
def SchemeKind.of (scheme : String) : SchemeKind :=
  if scheme = "file" then .file
  else if scheme ∈ ["http", "https", "ws", "wss", "ftp"] then .web
  else .other

/-- Whether backslashes count as slashes. -/
def SchemeKind.isSpecial (k : SchemeKind) : Bool := k != .other

/-- The port that is left out when it is given. -/
def defaultPort? (scheme : String) : Option Nat :=
  if scheme = "http" ∨ scheme = "ws" then some 80
  else if scheme = "https" ∨ scheme = "wss" then some 443
  else if scheme = "ftp" then some 21
  else none

/-- A host. -/
inductive Host where
  /-- A name; the empty name is an absent host. -/
  | name (name : String)
  /-- An address of four bytes, as a number. -/
  | ipv4 (address : Nat)
  /-- An address of eight pieces of sixteen bits. -/
  | ipv6 (pieces : List Nat)
  deriving DecidableEq, Repr

/-- What stands between the two slashes and the path. -/
structure Authority where
  /-- The user name; may be empty. -/
  username : String
  /-- The password; empty when there is none. -/
  password : String
  /-- The host. -/
  host : Host
  /-- The port, unless it is the scheme's own. -/
  port : Option Nat
  deriving DecidableEq, Repr

/-- A path. -/
inductive Path where
  /-- Segments, each written after a slash. -/
  | rooted (segments : List String)
  /-- A text without hierarchy. -/
  | bare (text : String)
  deriving DecidableEq, Repr

end Url

/-- A URL in its parts. -/
structure Url where
  /-- The scheme, in lower case. -/
  scheme : String
  /-- The authority, if there is one. -/
  authority : Option Url.Authority
  /-- The path. -/
  path : Url.Path
  /-- The query, without its question mark. -/
  query : Option String
  /-- The fragment, without its sign. -/
  fragment : Option String
  deriving DecidableEq, Repr

namespace Url

/-! ### Addresses as text -/

/-- The four bytes of an address, with points between them. -/
def ipv4Text (n : Nat) : String :=
  ".".intercalate ([n >>> 24 % 256, n >>> 16 % 256, n >>> 8 % 256, n % 256].map toString)

/-- The length of the run of zeros at the front. -/
def zeroRun (pieces : List Nat) : Nat := (pieces.takeWhile (· == 0)).length

/-- The first longest run of two or more zeros: where it starts and its length. -/
def longestZeros (pieces : List Nat) : Nat × Nat :=
  (List.range pieces.length).foldl
    (fun best i =>
      let n := zeroRun (pieces.drop i)
      if 2 ≤ n ∧ best.2 < n then (i, n) else best)
    (0, 0)

/-- Pieces in hexadecimal, with colons between them. -/
def pieceText (pieces : List Nat) : String :=
  ":".intercalate (pieces.map fun p => String.ofList (Nat.toDigits 16 p))

/-- An address of eight pieces; the first longest run of zeros becomes two colons. -/
def ipv6Text (pieces : List Nat) : String :=
  match longestZeros pieces with
  | (_, 0) => pieceText pieces
  | (start, n) => pieceText (pieces.take start) ++ "::" ++ pieceText (pieces.drop (start + n))

/-- The written form of a host. -/
def Host.text : Host → String
  | .name s => s
  | .ipv4 n => ipv4Text n
  | .ipv6 ps => "[" ++ ipv6Text ps ++ "]"

/-! ### URLs as text -/

/-- User name and password before the host. -/
def Authority.userText (a : Authority) : String :=
  let password := if a.password = "" then "" else ":" ++ a.password
  if a.username = "" ∧ a.password = "" then "" else a.username ++ password ++ "@"

/-- The port after the host. -/
def Authority.portText (a : Authority) : String :=
  match a.port with
  | none => ""
  | some p => ":" ++ toString p

/-- The written form of an authority, with its slashes. -/
def Authority.text (a : Authority) : String :=
  "//" ++ a.userText ++ a.host.text ++ a.portText

/-- The written form of a path. -/
def Path.text : Path → String
  | .rooted segments => String.join (segments.map ("/" ++ ·))
  | .bare s => s

/-- What stands before the path: the authority, or a mark that keeps a path which
starts with an empty segment from being read as an authority. -/
def beforePath (u : Url) : String :=
  match u.authority, u.path with
  | some a, _ => a.text
  | none, .rooted ("" :: _ :: _) => "/."
  | none, _ => ""

/-- A part with its mark, if it is there. -/
def marked (mark : String) : Option String → String
  | none => ""
  | some s => mark ++ s

/-- The written form of a URL. -/
def text (u : Url) : String :=
  u.scheme ++ ":" ++ u.beforePath ++ u.path.text ++ marked "?" u.query ++ marked "#" u.fragment

/-- The host, if there is one. -/
def host? (u : Url) : Option Host :=
  match u.authority with
  | some a => if a.host = .name "" then none else some a.host
  | none => none

/-- Whether references can be resolved against the URL. -/
def isHierarchical (u : Url) : Bool :=
  match u.path with
  | .rooted (_ :: _) => true
  | .rooted [] => u.authority.isSome
  | .bare _ => false

end Url

end SignIn
