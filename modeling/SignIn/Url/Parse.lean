import SignIn.Url.Domain
import SignIn.Url.Path

/-!
# Reading URLs

A text is trimmed of controls and spaces and loses its tabs and line breaks.  What
follows the scheme is read from left to right: authority, path, query, fragment.
A text without a scheme is a reference and needs a base, from which it takes the
parts that it does not give.

## Main definitions

* `parse` — a URL from a text that stands alone.
* `join` — a URL from a reference and a base.
-/

namespace SignIn.Url

/-! ### Preparation -/

/-- The characters that count: no controls and spaces at the ends, no tabs and line
breaks anywhere. -/
def prepare (s : String) : List Char :=
  let trimmed :=
    ((s.toList.dropWhile (·.toNat ≤ 0x20)).reverse.dropWhile (·.toNat ≤ 0x20)).reverse
  trimmed.filter fun c => c != '\t' && c != '\n' && c != '\r'

/-- Whether a character may stand in a scheme after the first. -/
def isSchemeChar (c : Char) : Bool := c.isAlphanum || c == '+' || c == '-' || c == '.'

/-- The scheme, in lower case, and what follows its colon. -/
def splitScheme (cs : List Char) : Option (String × List Char) :=
  match cs with
  | [] => none
  | c :: _ =>
    if c.isAlpha then
      match cs.span isSchemeChar with
      | (scheme, ':' :: rest) => some (String.ofList (scheme.map Char.toLower), rest)
      | _ => none
    else none

/-! ### Query and fragment -/

/-- A fragment after its sign. -/
def parseFragment (cs : List Char) : String := String.ofList (percentEncode fragmentSet cs)

/-- A query after its question mark, and what follows it. -/
def parseQuery (kind : SchemeKind) (cs : List Char) : String × List Char :=
  let (query, rest) := cs.span (· != '#')
  let set := if kind.isSpecial then specialQuerySet else querySet
  (String.ofList (percentEncode set query), rest)

/-- Query and fragment, where the path has ended. -/
def parseTail (kind : SchemeKind) (cs : List Char) : Option String × Option String :=
  match cs with
  | '?' :: rest =>
    match parseQuery kind rest with
    | (query, _ :: fragment) => (some query, some (parseFragment fragment))
    | (query, []) => (some query, none)
  | '#' :: rest => (none, some (parseFragment rest))
  | _ => (none, none)

/-- Completes a URL by the query and fragment at which its path has ended. -/
def withTail (u : Url) (kind : SchemeKind) (cs : List Char) : Url :=
  let (query, fragment) := parseTail kind cs
  { u with query := query, fragment := fragment }

/-! ### Authority -/

/-- Whether a character ends the authority. -/
def endsAuthority (kind : SchemeKind) (c : Char) : Bool :=
  c == '/' || c == '?' || c == '#' || (c == '\\' && kind.isSpecial)

/-- What stands before the last at-sign of the authority, if there is one, and what
follows it. -/
def splitUser (kind : SchemeKind) (cs : List Char) : Option (List Char) × List Char :=
  let (authority, rest) := cs.span (!endsAuthority kind ·)
  match authority.reverse.span (· != '@') with
  | (host, _ :: user) => (some user.reverse, host.reverse ++ rest)
  | (_, []) => (none, cs)

/-- The host part: up to a colon outside brackets, or the end of the authority. -/
def spanHost (kind : SchemeKind) : Bool → List Char → List Char × List Char
  | _, [] => ([], [])
  | inside, c :: cs =>
    if endsAuthority kind c || (c == ':' && !inside) then ([], c :: cs)
    else
      let inside := if c = '[' then true else if c = ']' then false else inside
      let (host, rest) := spanHost kind inside cs
      (c :: host, rest)

/-- The number that decimal digits give, none for no digits. -/
def portNumber (digits : List Char) : Nat :=
  digits.foldl (fun n c => n * 10 + (c.toNat - 0x30)) 0

/-- The port after its colon, left out when absent or the scheme's own, and what
follows. -/
def parsePort (scheme : String) (cs : List Char) : Except Fault (Option Nat × List Char) :=
  let (digits, rest) := cs.span Char.isDigit
  let n := portNumber digits
  if 65535 < n then .error .invalidPort
  else if rest.head?.any fun c => c != '/' && c != '\\' && c != '?' && c != '#' then
    .error .invalidPort
  else .ok (if digits.isEmpty ∨ defaultPort? scheme = some n then none else some n, rest)

/-- The host of an authority. -/
def parseHost (kind : SchemeKind) (cs : List Char) : Except Fault Host :=
  if !kind.isSpecial then parseOtherHost cs
  else if cs = [] then .error .emptyHost
  else parseWebHost cs

/-- The port behind a host, if a colon announces one, and what follows. -/
def parseColonPort (scheme : String) (host : Host) (cs : List Char) :
    Except Fault (Option Nat × List Char) :=
  match cs with
  | ':' :: rest => if host = .name "" then .error .emptyHost else parsePort scheme rest
  | _ => .ok (none, cs)

/-- Host and port of an authority, and what follows. -/
def parseHostAndPort (scheme : String) (kind : SchemeKind) (cs : List Char) :
    Except Fault (Host × Option Nat × List Char) := do
  let (hostChars, rest) := spanHost kind false cs
  let host ← parseHost kind hostChars
  let (port, rest) ← parseColonPort scheme host rest
  return (host, port, rest)

/-- User name and password before the at-sign; the first colon separates them. -/
def parseUser (user : List Char) : String × String :=
  let encode cs := String.ofList (percentEncode userSet cs)
  match user.span (· != ':') with
  | (name, _ :: password) => (encode name, encode password)
  | (name, []) => (encode name, "")

/-- The authority after its slashes, and what follows. -/
def parseAuthority (scheme : String) (kind : SchemeKind) (cs : List Char) :
    Except Fault (Authority × List Char) :=
  let (user, rest) := splitUser kind cs
  if user = some [] ∧ rest.head?.any (endsAuthority kind) then .error .emptyHost
  else do
    let (username, password) := parseUser (user.getD [])
    let (host, port, rest) ← parseHostAndPort scheme kind rest
    if host = .name "" ∧ (username ≠ "" ∨ password ≠ "") then .error .emptyHost
    else return (⟨username, password, host, port⟩, rest)

/-- The path after an authority.  Under a special scheme there always is one. -/
def pathAfterAuthority (kind : SchemeKind) (cs : List Char) : List String × List Char :=
  match cs with
  | '/' :: rest => walk kind [] rest
  | c :: rest =>
    if kind.isSpecial then
      if c = '\\' then walk kind [] rest else walk kind [] (c :: rest)
    else if c = '?' ∨ c = '#' then ([], c :: rest)
    else walk kind [] (c :: rest)
  | [] => if kind.isSpecial then ([""], []) else ([], [])

/-- A URL from what follows the two slashes. -/
def afterSlashes (scheme : String) (kind : SchemeKind) (cs : List Char) : Except Fault Url := do
  let (authority, rest) ← parseAuthority scheme kind cs
  let (segments, rest) := pathAfterAuthority kind rest
  return withTail ⟨scheme, some authority, .rooted segments, none, none⟩ kind rest

/-! ### Files -/

/-- The authority of a file URL: only a host, which may be absent. -/
def fileAuthority (host : Host) : Authority := ⟨"", "", host, none⟩

/-- Whether a file reference starts with a drive. -/
def startsWithDrive : List Char → Bool
  | a :: b :: rest =>
    a.isAlpha && (b == ':' || b == '|')
      && rest.head?.all fun c => c == '/' || c == '\\' || c == '?' || c == '#'
  | _ => false

/-- The host of a file URL and what follows.  A drive is no host, and the name of
the local machine is none. -/
def parseFileHost (cs : List Char) : Except Fault (Host × List Char) := do
  let (host, rest) := cs.span fun c => c != '/' && c != '\\' && c != '?' && c != '#'
  if isDrive host then return (.name "", cs)
  else if host = [] then return (.name "", rest)
  else
    match ← parseWebHost host with
    | .name "localhost" => return (.name "", rest)
    | h => return (h, rest)

/-- A file URL from a host, the segments before and the text of the path. -/
def fileUrl (host : Host) (before : List String) (cs : List Char) : Url :=
  let (segments, rest) := walk .file before cs
  withTail ⟨"file", some (fileAuthority host), .rooted (dropEmptyFront segments), none, none⟩
    .file rest

/-- The text of a path without its first slash. -/
def dropSlash (kind : SchemeKind) : List Char → List Char
  | c :: cs => if c = '/' ∨ (c = '\\' ∧ kind.isSpecial) then cs else c :: cs
  | [] => []

/-- A file URL from what follows the two slashes.  After a host, a path that starts
with a drive drops the host. -/
def afterFileSlashes (cs : List Char) : Except Fault Url := do
  let (host, rest) ← parseFileHost cs
  if host = .name "" then return fileUrl host [] rest
  else
    let path := dropSlash .file rest
    let startsAtDrive := (walk .file [] path).1.head?.any (isPlainDrive ·.toList)
    return fileUrl (if startsAtDrive then .name "" else host) [] path

/-- The segments of a path. -/
def segmentsOf (u : Url) : List String :=
  match u.path with
  | .rooted ss => ss
  | .bare _ => []

/-- The segments of a base that a relative path continues. -/
def folderOf (kind : SchemeKind) (u : Url) : List String :=
  match kind, u.segmentsOf.getLast? with
  | .file, some last => if isPlainDrive last.toList then u.segmentsOf else u.segmentsOf.dropLast
  | _, _ => u.segmentsOf.dropLast

/-- Resolves a reference that keeps the path of the base. -/
def keepPath (base : Url) (kind : SchemeKind) (cs : List Char) : Url :=
  match cs with
  | '#' :: rest => { base with fragment := some (parseFragment rest) }
  | '?' :: _ => withTail base kind cs
  | _ => { base with fragment := none }

/-- A file URL from what follows the scheme, or from a reference to a file. -/
def parseFile (base : Option Url) (cs : List Char) : Except Fault Url :=
  match cs with
  | c :: rest =>
    if c = '/' ∨ c = '\\' then
      match rest with
      | d :: inner =>
        if d = '/' ∨ d = '\\' then afterFileSlashes inner else .ok (fromRoot base rest)
      | [] => .ok (fromRoot base rest)
    else
      match base with
      | none => .ok (fileUrl (.name "") [] cs)
      | some b =>
        if c = '?' ∨ c = '#' then .ok (keepPath b .file cs)
        else if startsWithDrive cs then .ok (fileUrl (.name "") [] cs)
        else
          let (segments, rest) := walk .file (folderOf .file b) cs
          .ok (withTail { b with path := .rooted (dropEmptyFront segments) } .file rest)
  | [] =>
    match base with
    | none => .ok (fileUrl (.name "") [] [])
    | some b => .ok (keepPath b .file [])
where
  /-- A path from the root keeps the drive of the base, or else its host. -/
  fromRoot (base : Option Url) (rest : List Char) : Url :=
    match base with
    | none => fileUrl (.name "") [] rest
    | some b =>
      if startsWithDrive rest then fileUrl (.name "") [] rest
      else
        match b.segmentsOf with
        | first :: _ =>
          if isPlainDrive first.toList then fileUrl (.name "") [first] rest
          else fileUrl ((b.host?).getD (.name "")) [] rest
        | [] => fileUrl ((b.host?).getD (.name "")) [] rest

/-! ### References -/

/-- Resolves a reference without a scheme against a base that is no file. -/
def parseRelative (base : Url) (kind : SchemeKind) (cs : List Char) : Except Fault Url :=
  match cs with
  | [] => .ok (keepPath base kind [])
  | c :: rest =>
    if c = '?' ∨ c = '#' then .ok (keepPath base kind cs)
    else if c = '/' ∨ c = '\\' then
      match cs with
      | '/' :: '/' :: inner => afterSlashes base.scheme kind inner
      | _ :: d :: inner =>
        if d = '/' ∨ d = '\\' then
          afterSlashes base.scheme kind (inner.dropWhile fun c => c == '/' || c == '\\')
        else fromRoot rest
      | _ => fromRoot rest
    else
      let (segments, rest) := walk kind (folderOf kind base) cs
      .ok (withTail { base with path := .rooted segments } kind rest)
where
  /-- A path from the root keeps the authority of the base. -/
  fromRoot (rest : List Char) : Except Fault Url :=
    let (segments, rest) := walk kind [] rest
    .ok (withTail { base with path := .rooted segments } kind rest)

/-- A URL of another scheme from what follows the colon. -/
def parseOther (scheme : String) (cs : List Char) : Except Fault Url :=
  match cs with
  | '/' :: '/' :: rest => afterSlashes scheme .other rest
  | '/' :: rest =>
    let (segments, rest) := walk .other [] rest
    .ok (withTail ⟨scheme, none, .rooted segments, none, none⟩ .other rest)
  | _ =>
    let (path, rest) := cs.span fun c => c != '?' && c != '#'
    let path := String.ofList (percentEncode controlSet path)
    .ok (withTail ⟨scheme, none, .bare path, none, none⟩ .other rest)

/-! ### Whole texts -/

/-- Whether a character is a slash of either direction. -/
def isSlash (c : Char) : Bool := c == '/' || c == '\\'

/-- A URL from what follows the scheme. -/
def parseScheme (base : Option Url) (scheme : String) (cs : List Char) : Except Fault Url :=
  match SchemeKind.of scheme with
  | .file => parseFile (base.filter (·.scheme == "file")) cs
  | .web =>
    let slashes := (cs.takeWhile isSlash).length
    match base.filter (·.scheme == scheme) with
    | some b =>
      if slashes < 2 then parseRelative b .web cs
      else afterSlashes scheme .web (cs.dropWhile isSlash)
    | none => afterSlashes scheme .web (cs.dropWhile isSlash)
  | .other => parseOther scheme cs

/-- A URL from characters that count, perhaps against a base. -/
def parseChars (base : Option Url) (cs : List Char) : Except Fault Url :=
  match splitScheme cs with
  | some (scheme, rest) => parseScheme base scheme rest
  | none =>
    match base with
    | none => .error .relativeWithoutBase
    | some b =>
      match cs with
      | '#' :: _ => .ok (keepPath b (SchemeKind.of b.scheme) cs)
      | _ =>
        if !b.isHierarchical then .error .relativeToOpaqueBase
        else
          match SchemeKind.of b.scheme with
          | .file => parseFile (some b) cs
          | kind => parseRelative b kind cs

/-- A URL from a text that stands alone. -/
def parse (s : String) : Except Fault Url := parseChars none (prepare s)

/-- A URL from a reference, resolved against a base. -/
def join (base : Url) (reference : String) : Except Fault Url :=
  parseChars (some base) (prepare reference)

end SignIn.Url
