import SignIn.Json.Value

/-!
# Writing values

Values are written in one line for messages and requests, or over several lines
with two blanks per level for files.  Strings escape the quote, the backslash and
the ASCII controls, and nothing else.

## Main definitions

* `escapeJson`, `stringText` — strings.
* `Value.compact` — one line, no blanks.
* `Value.pretty` — one element or member per line.
-/

namespace SignIn.Json

open SignIn.Number

/-- The lower-case digit of a number below sixteen. -/
def hexDigit (n : Nat) : Char := Nat.digitChar n

/-- What stands for a character inside a string. -/
def escapeJson (c : Char) : List Char :=
  if c = '"' then ['\\', '"']
  else if c = '\\' then ['\\', '\\']
  else if c = '\x08' then ['\\', 'b']
  else if c = '\t' then ['\\', 't']
  else if c = '\n' then ['\\', 'n']
  else if c = '\x0c' then ['\\', 'f']
  else if c = '\r' then ['\\', 'r']
  else if c.toNat < 0x20 then
    ['\\', 'u', '0', '0', hexDigit (c.toNat / 16), hexDigit (c.toNat % 16)]
  else [c]

/-- A string between quotes. -/
def stringText (s : String) : List Char :=
  '"' :: s.toList.flatMap escapeJson ++ ['"']

/-- A number. -/
def Numeral.text : Numeral → List Char
  | .integer n => (toString n).toList
  | .float x => x.text.toList

/-- Elements between brackets, separated by commas. -/
def bracketed (opening closing : Char) (parts : List (List Char)) : List Char :=
  opening :: [','].intercalate parts ++ [closing]

namespace Value

mutual

/-- A value in one line. -/
def compactChars : Value → List Char
  | .null => "null".toList
  | .bool b => (if b then "true" else "false").toList
  | .number n => n.text
  | .string s => stringText s
  | .array items => bracketed '[' ']' (compactItems items)
  | .object members => bracketed '\x7b' '\x7d' (compactMembers members)

/-- The elements of a list, each in one line. -/
def compactItems : List Value → List (List Char)
  | [] => []
  | v :: vs => compactChars v :: compactItems vs

/-- The members of an object, each in one line. -/
def compactMembers : List (String × Value) → List (List Char)
  | [] => []
  | (name, v) :: ms => (stringText name ++ ':' :: compactChars v) :: compactMembers ms

end

/-- A value in one line. -/
def compact (v : Value) : String := String.ofList v.compactChars

/-- A line break and the blanks of a level. -/
def newLine (level : Nat) : List Char := '\n' :: List.replicate (2 * level) ' '

/-- Parts over several lines, between brackets; without parts there is no break. -/
def spread (opening closing : Char) (level : Nat) (parts : List (List Char)) : List Char :=
  match parts with
  | [] => [opening, closing]
  | _ =>
    opening :: [','].intercalate (parts.map (newLine (level + 1) ++ ·)) ++
      newLine level ++ [closing]

mutual

/-- A value over several lines, inside so many containers. -/
def prettyChars (level : Nat) : Value → List Char
  | .null => "null".toList
  | .bool b => (if b then "true" else "false").toList
  | .number n => n.text
  | .string s => stringText s
  | .array items => spread '[' ']' level (prettyItems (level + 1) items)
  | .object members => spread '\x7b' '\x7d' level (prettyMembers (level + 1) members)

/-- The elements of a list, each over several lines. -/
def prettyItems (level : Nat) : List Value → List (List Char)
  | [] => []
  | v :: vs => prettyChars level v :: prettyItems level vs

/-- The members of an object, each over several lines. -/
def prettyMembers (level : Nat) : List (String × Value) → List (List Char)
  | [] => []
  | (name, v) :: ms =>
    (stringText name ++ [':', ' '] ++ prettyChars level v) :: prettyMembers level ms

end

/-- A value over several lines. -/
def pretty (v : Value) : String := String.ofList (v.prettyChars 0)

end Value

end SignIn.Json
