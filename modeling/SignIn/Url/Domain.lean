import SignIn.Text.Composition
import SignIn.Text.Direction
import SignIn.Text.Joining
import SignIn.Url.Address
import SignIn.Url.Folding
import SignIn.Url.Punycode

/-!
# Domain names

A host under a web scheme is a domain name.  Its characters are folded and composed,
labels with characters outside ASCII are written in ASCII, and characters that would
break the URL apart are refused.

## Main definitions

* `Label` — a label as it is displayed and as it is written.
* `readLabels?` — the labels of a domain name.
* `domainToAscii` — the written form of a domain name.
* `parseWebHost`, `parseOtherHost` — hosts.
-/

namespace SignIn.Url

open SignIn.Text

/-- The ASCII characters that no domain name has. -/
def isForbiddenInDomain (c : Char) : Bool :=
  c.toNat ≤ 0x20 || c.toNat == 0x7F || "%#/:<>?@[\\]^|".toList.contains c

/-- The ASCII characters that no host has. -/
def isForbiddenInHost (c : Char) : Bool :=
  "\x00\t\n\r #/:<>?@[\\]^|".toList.contains c

/-- Whether a character is in ASCII. -/
def isAscii (c : Char) : Bool := c.toNat < 0x80

/-- The longest label that is written in ASCII. -/
def labelLimit : Nat := 1000

/-- The longest ASCII form that is read. -/
def formLimit : Nat := 2000

/-- The label that an ASCII form stands for.  It has characters outside ASCII, all of them
folded and composed. -/
def readForm? (form : List Char) : Option (List Char) := do
  guard (form.all isAscii && form.length ≤ formLimit)
  let label ← Punycode.decode? form
  guard (!label.all isAscii && label.all isFolded && composed label == label)
  return label

/-- Whether a label starts with a letter and its joiners mean something. -/
def isReadable (label : List Char) : Bool := !label.head?.any isMark && joinersFit label

/-- A label as it is displayed and as it is written in ASCII. -/
structure Label where
  /-- The label as it is displayed. -/
  shown : List Char
  /-- The label in ASCII. -/
  written : List Char

/-- A label from the folded characters between two dots. -/
def Label.ofFolded? (cs : List Char) : Option Label :=
  match cs with
  | 'x' :: 'n' :: '-' :: '-' :: form => do
    let label ← readForm? form
    guard (isReadable label)
    return ⟨label, cs⟩
  | _ =>
    if cs.all isAscii then some ⟨cs, cs⟩
    else do
      guard (isReadable cs && cs.length ≤ labelLimit)
      return ⟨cs, "xn--".toList ++ Punycode.encode cs⟩

/-- The labels of a domain name.  Next to a label that is written from right to left,
each keeps to the rules of writing direction. -/
def readLabels? (cs : List Char) : Option (List Label) := do
  let folded ← cs.mapM fold?
  let name := composed folded.flatten
  guard (!name.any isForbiddenInDomain)
  let labels ← (splitOn '.' name).mapM Label.ofFolded?
  guard (!labels.any (hasRightToLeft ·.shown) || labels.all (keepsDirection ·.shown))
  return labels

/-- A domain name in ASCII. -/
def domainToAscii (cs : List Char) : Except Fault (List Char) :=
  match readLabels? cs with
  | some labels => .ok (['.'].intercalate (labels.map Label.written))
  | none => .error .invalidDomain

/-- A host in brackets, if there are brackets at both ends. -/
def parseBracketed (cs : List Char) : Except Fault Host :=
  if cs.getLast? = some ']' then (parseIpv6 cs.dropLast).map .ipv6 else .error .invalidIpv6

/-- A host under a web scheme. -/
def parseWebHost (cs : List Char) : Except Fault Host :=
  match cs with
  | '[' :: rest => parseBracketed rest
  | _ =>
    match Utf8.decodeChars? (percentDecode (cs.flatMap String.utf8EncodeChar)) with
    | none => .error .invalidDomain
    | some decoded => do
      let domain ← domainToAscii decoded
      if domain.isEmpty then throw .emptyHost
      else if endsInNumber domain then return .ipv4 (← parseIpv4 domain)
      else return .name (String.ofList domain)

/-- A host under any other scheme: kept as it is, with controls encoded. -/
def parseOtherHost (cs : List Char) : Except Fault Host :=
  match cs with
  | '[' :: rest => parseBracketed rest
  | _ =>
    if cs.any isForbiddenInHost then .error .invalidHostCharacter
    else .ok (.name (String.ofList (percentEncode controlSet cs)))

end SignIn.Url
