import SignIn.Json.Value
import SignIn.Text.Quoted
import SignIn.Text.Utf8

/-!
# Faults in a JSON text

A reader stops at the first fault.  A fault of the text itself is found at a
place; a fault of its meaning (a value of the wrong kind, a missing member) is
found after some part has been read, and takes the place where the innermost
reader that knows the text stands.  Places are kept as the number of bytes that
are left, and turned into a line and a column at the end.

## Main definitions

* `Cause` and `Cause.message` — what is wrong.
* `Fault` — a cause with, or still without, its place.
* `Position` — line and column, as counted in messages.
* `Mistake` — a cause with its position; `Mistake.message` is the text shown.
-/

namespace SignIn.Json

open SignIn.Text SignIn.Number

/-- What stands in the text, as far as messages tell. -/
inductive Found where
  /-- The value `null`. -/
  | null
  /-- A truth value. -/
  | bool (b : Bool)
  /-- A number. -/
  | number (n : Numeral)
  /-- A text. -/
  | string (s : String)
  /-- A list. -/
  | sequence
  /-- An object. -/
  | map
  deriving DecidableEq, Repr

namespace Found

/-- The words for what stands in the text. -/
def describe : Found → String
  | .null => "null"
  | .bool b => "boolean `" ++ (if b then "true" else "false") ++ "`"
  | .number (.integer n) => "integer `" ++ toString n ++ "`"
  | .number (.float x) => "floating point `" ++ x.text ++ "`"
  | .string s => "string " ++ quote s
  | .sequence => "sequence"
  | .map => "map"

/-- What a value looks like to a reader that expected something else. -/
def ofValue : Value → Found
  | .null => .null
  | .bool b => .bool b
  | .number n => .number n
  | .string s => .string s
  | .array _ => .sequence
  | .object _ => .map

end Found

/-- What is wrong with a text. -/
inductive Cause where
  /-- The text ends inside a list. -/
  | endInList
  /-- The text ends inside an object. -/
  | endInObject
  /-- The text ends inside a string. -/
  | endInString
  /-- The text ends where a value should stand. -/
  | endInValue
  /-- A name without a colon after it. -/
  | expectedColon
  /-- An element followed by neither a comma nor the end of the list. -/
  | expectedListEnd
  /-- A member followed by neither a comma nor the end of the object. -/
  | expectedObjectEnd
  /-- A word that starts like `null`, `true` or `false`. -/
  | expectedWord
  /-- Something that starts no value. -/
  | expectedValue
  /-- A backslash before a character that has no escape. -/
  | invalidEscape
  /-- A malformed number. -/
  | invalidNumber
  /-- A number greater than any double. -/
  | numberOutOfRange
  /-- A string whose bytes are no text. -/
  | invalidCodePoint
  /-- A bare control character inside a string. -/
  | controlCharacter
  /-- A member whose name is no string. -/
  | nameNotString
  /-- A surrogate without its partner. -/
  | loneSurrogate
  /-- A first surrogate followed by no escape. -/
  | unfinishedSurrogate
  /-- A comma before a closing bracket. -/
  | trailingComma
  /-- Text after the value. -/
  | trailingCharacters
  /-- Too many containers inside one another. -/
  | tooDeep
  /-- A value of another kind than expected. -/
  | wrongKind (found : Found) (expected : String)
  /-- A value of the expected kind that is not allowed. -/
  | wrongValue (found : Found) (expected : String)
  /-- A list of another length than expected. -/
  | wrongLength (length : Nat) (expected : String)
  /-- A name outside a fixed choice of two. -/
  | unknownVariant (name first second : String)
  /-- A member that has to be there is not. -/
  | missingField (name : String)
  /-- A member occurs twice. -/
  | duplicateField (name : String)
  /-- A text that does not read as what it should be. -/
  | unreadable (reason : String)
  deriving DecidableEq, Repr

/-- The words for a cause. -/
def Cause.message : Cause → String
  | .endInList => "EOF while parsing a list"
  | .endInObject => "EOF while parsing an object"
  | .endInString => "EOF while parsing a string"
  | .endInValue => "EOF while parsing a value"
  | .expectedColon => "expected `:`"
  | .expectedListEnd => "expected `,` or `]`"
  | .expectedObjectEnd => "expected `,` or `\x7d`"
  | .expectedWord => "expected ident"
  | .expectedValue => "expected value"
  | .invalidEscape => "invalid escape"
  | .invalidNumber => "invalid number"
  | .numberOutOfRange => "number out of range"
  | .invalidCodePoint => "invalid unicode code point"
  | .controlCharacter => "control character (\\u0000-\\u001F) found while parsing a string"
  | .nameNotString => "key must be a string"
  | .loneSurrogate => "lone leading surrogate in hex escape"
  | .unfinishedSurrogate => "unexpected end of hex escape"
  | .trailingComma => "trailing comma"
  | .trailingCharacters => "trailing characters"
  | .tooDeep => "recursion limit exceeded"
  | .wrongKind found expected => "invalid type: " ++ found.describe ++ ", expected " ++ expected
  | .wrongValue found expected => "invalid value: " ++ found.describe ++ ", expected " ++ expected
  | .wrongLength n expected => "invalid length " ++ toString n ++ ", expected " ++ expected
  | .unknownVariant name first second =>
    "unknown variant `" ++ name ++ "`, expected `" ++ first ++ "` or `" ++ second ++ "`"
  | .missingField name => "missing field `" ++ name ++ "`"
  | .duplicateField name => "duplicate field `" ++ name ++ "`"
  | .unreadable reason => reason

/-- Why and where a reader stopped. -/
inductive Fault where
  /-- A fault whose place is known: so many bytes are left after it. -/
  | located (cause : Cause) (left : Nat)
  /-- A fault of meaning, found where `rest` is left to read. -/
  | unlocated (cause : Cause) (rest : Bytes)
  deriving Repr

namespace Fault

/-- A fault at what has been read so far. -/
def here (cause : Cause) (rest : Bytes) : Fault := .located cause rest.length

/-- A fault at the next byte, or at the end when there is none. -/
def ahead (cause : Cause) (rest : Bytes) : Fault := .located cause (rest.length - 1)

/-- What is wrong. -/
def cause : Fault → Cause
  | .located c _ => c
  | .unlocated c _ => c

/-- Gives a fault without a place the place where it was found. -/
def settle : Fault → Fault
  | .unlocated c rest => .located c rest.length
  | f => f

end Fault

/-- The outcome of reading from the front of a text: a value and what is left. -/
abbrev Reading (α : Type) := Except Fault (α × Bytes)

/-- A place in a text, as messages give it. -/
structure Position where
  /-- The number of the line, from one. -/
  line : Nat
  /-- The number of bytes of that line up to the place. -/
  column : Nat
  deriving DecidableEq, Repr

/-- The place after the bytes given. -/
def Position.after (read : Bytes) : Position :=
  read.foldl (fun p b => if b == 0x0A then ⟨p.line + 1, 0⟩ else ⟨p.line, p.column + 1⟩) ⟨1, 0⟩

/-- A fault with its place in the text. -/
structure Mistake where
  /-- What is wrong. -/
  cause : Cause
  /-- Where, if that is known. -/
  position : Option Position
  deriving DecidableEq, Repr

/-- The text shown for a mistake. -/
def Mistake.message (m : Mistake) : String :=
  match m.position with
  | none => m.cause.message
  | some p => m.cause.message ++ " at line " ++ toString p.line ++ " column " ++ toString p.column

/-- The mistake that a fault is in the text given. -/
def Fault.inText (text : Bytes) : Fault → Mistake
  | .located c left => ⟨c, some (Position.after (text.take (text.length - left)))⟩
  | .unlocated c _ => ⟨c, none⟩

end SignIn.Json
