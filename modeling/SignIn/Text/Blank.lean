/-!
# Blank characters

A character is *blank* when it has the Unicode property White_Space: the ASCII
blanks, the next-line and no-break spaces, the spaces of general punctuation and
the ideographic space.  User names, server addresses, menu answers and times are
all trimmed of this one set.

## Main definitions

* `isBlank` — membership in the set.
* `splitOn` — the parts of a text between separators.
* `dropEnd`, `trim` — removing characters from the ends of a text.
* `withoutLineEnd` — a line without the characters that end it.
-/

namespace SignIn.Text

/-- Whether a character has the property White_Space. -/
def isBlank (c : Char) : Bool :=
  let n := c.toNat
  (0x09 ≤ n && n ≤ 0x0D) || n == 0x20 || n == 0x85 || n == 0xA0 || n == 0x1680
    || (0x2000 ≤ n && n ≤ 0x200A) || n == 0x2028 || n == 0x2029 || n == 0x202F
    || n == 0x205F || n == 0x3000

/-- The parts of a text between separators; there is always at least one. -/
def splitOn (sep : Char) : List Char → List (List Char)
  | [] => [[]]
  | c :: cs =>
    if c = sep then [] :: splitOn sep cs
    else
      match splitOn sep cs with
      | [] => [[c]]
      | part :: parts => (c :: part) :: parts

/-- The characters left after the leading ones of class `p` are dropped from both
ends. -/
def strip (p : Char → Bool) (cs : List Char) : List Char :=
  (((cs.dropWhile p).reverse).dropWhile p).reverse

/-- A text without the trailing characters of class `p`. -/
def dropEnd (p : Char → Bool) (s : String) : String :=
  String.ofList (s.toList.reverse.dropWhile p).reverse

/-- Whether a character ends a line. -/
def isLineEnd (c : Char) : Bool := c == '\r' || c == '\n'

/-- A line without the characters that end it. -/
def withoutLineEnd (line : String) : String := dropEnd isLineEnd line

/-- A text without its leading and trailing blanks. -/
def trim (s : String) : String :=
  String.ofList (strip isBlank s.toList)

end SignIn.Text
