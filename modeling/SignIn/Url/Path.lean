import SignIn.Url.Basic

/-!
# Reading paths

A path is read segment by segment.  A single dot names the current place and leaves
nothing behind, two dots take back the segment before; written forms of the dots
count as well.  Under the scheme `file` a first segment of a letter and a bar or
colon is a drive, and a drive is never taken back.

## Main definitions

* `walk` — reads segments up to the query, the fragment or the end.
-/

namespace SignIn.Url

/-- Whether characters are a letter and a colon or bar. -/
def isDrive : List Char → Bool
  | [a, b] => a.isAlpha && (b == ':' || b == '|')
  | _ => false

/-- Whether characters are a letter and a colon. -/
def isPlainDrive : List Char → Bool
  | [a, ':'] => a.isAlpha
  | _ => false

/-- Whether a segment looks like a drive, also before a backslash, so that two dots
do not take it back. -/
def startsLikeDrive : List Char → Bool
  | [a, b] => a.isAlpha && (b == ':' || b == '|')
  | a :: b :: '\\' :: _ => a.isAlpha && (b == ':' || b == '|')
  | _ => false

/-- Whether characters are one dot, plain or encoded. -/
def isSingleDot (cs : List Char) : Bool :=
  cs == ['.'] || cs.map Char.toLower == "%2e".toList

/-- Whether characters are two dots, plain or encoded. -/
def isDoubleDot (cs : List Char) : Bool :=
  ["..", "%2e.", ".%2e", "%2e%2e"].any (·.toList == cs.map Char.toLower)

/-- Takes back the last of the segments given, the last of which comes first. -/
def takeBack : List (List Char) → List (List Char)
  | [] => []
  | s :: done => if startsLikeDrive s then s :: done else done

/-- Adds a segment to those before it, the last of which comes first.  A dot
segment that no slash follows leaves an empty one. -/
def addSegment (kind : SchemeKind) (done : List (List Char)) (raw : List Char) (slash : Bool) :
    List (List Char) :=
  let segment := percentEncode pathSet raw
  let ended (done : List (List Char)) := if slash then done else [] :: done
  if isDoubleDot segment then ended (takeBack done)
  else if isSingleDot segment then ended done
  else
    match kind, done, segment with
    | .file, [], [a, b] => (if isDrive [a, b] then [a, ':'] else segment) :: done
    | _, _, _ => segment :: done

/-- Reads segments: those done, the last of which comes first, the characters of
the current one, likewise, and the text.  Gives all segments, the last first, and
what is left from the query or fragment on. -/
def walkFrom (kind : SchemeKind) :
    List (List Char) → List Char → List Char → List (List Char) × List Char
  | done, current, [] => (addSegment kind done current.reverse false, [])
  | done, current, c :: cs =>
    if c = '/' ∨ (c = '\\' ∧ kind.isSpecial) then
      walkFrom kind (addSegment kind done current.reverse true) [] cs
    else if c = '?' ∨ c = '#' then (addSegment kind done current.reverse false, c :: cs)
    else walkFrom kind done (c :: current) cs

/-- Reads segments after those given, in order. -/
def walk (kind : SchemeKind) (before : List String) (cs : List Char) :
    List String × List Char :=
  let (segments, rest) := walkFrom kind (before.map String.toList).reverse [] cs
  (segments.reverse.map String.ofList, rest)

/-- A file path drops its empty segments in front, the last one apart. -/
def dropEmptyFront : List String → List String
  | [] => [""]
  | [s] => [s]
  | s :: t :: rest => if s = "" then dropEmptyFront (t :: rest) else s :: t :: rest

end SignIn.Url
