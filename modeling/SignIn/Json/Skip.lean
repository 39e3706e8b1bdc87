import SignIn.Json.Container

/-!
# Values that nobody asked for

The value of an unknown member is passed over.  It has to be well formed, but it is
not decoded: its strings may hold any bytes and any escapes of the right shape, its
numbers any size, and its containers may nest as deep as the text allows.

## Main definitions

* `skipString`, `skipNumber` — passing one string or number.
* `skipValue` — passing any value.
-/

namespace SignIn.Json

open SignIn.Text

/-- Passes a string after its opening quote. -/
def skipString : Bytes → Except Fault Bytes
  | [] => .error (.here .endInString [])
  | 0x22 :: rest => .ok rest
  | 0x5C :: 0x75 :: a :: b :: c :: d :: rest =>
    match hexUnit? a b c d with
    | none => .error (.here .invalidEscape rest)
    | some _ => skipString rest
  | 0x5C :: 0x75 :: _ => .error (.here .endInString [])
  | [0x5C] => .error (.here .endInString [])
  | 0x5C :: b :: rest =>
    match shortEscape? b with
    | some _ => skipString rest
    | none => .error (.here .invalidEscape rest)
  | b :: rest =>
    if b < 0x20 then .error (.here .controlCharacter (b :: rest)) else skipString rest

/-- Passes the exponent of a number after its letter. -/
def skipExponent (bs : Bytes) : Except Fault Bytes :=
  let bs := match bs with
    | 0x2B :: r => r
    | 0x2D :: r => r
    | r => r
  match bs with
  | [] => .error (.here .invalidNumber [])
  | b :: rest =>
    if isDigit b then .ok (rest.dropWhile isDigit) else .error (.here .invalidNumber rest)

/-- Passes the exponent of a number, if there is one. -/
def skipExponentIfAny (bs : Bytes) : Except Fault Bytes :=
  match bs with
  | 0x65 :: rest => skipExponent rest
  | 0x45 :: rest => skipExponent rest
  | _ => .ok bs

/-- Passes what follows the whole part of a number. -/
def skipAfterWhole (bs : Bytes) : Except Fault Bytes :=
  match bs with
  | 0x2E :: rest =>
    if rest.head?.any isDigit then skipExponentIfAny (rest.dropWhile isDigit)
    else .error (.ahead .invalidNumber rest)
  | _ => skipExponentIfAny bs

/-- Passes a number after its sign. -/
def skipNumber (bs : Bytes) : Except Fault Bytes :=
  match bs with
  | [] => .error (.here .invalidNumber [])
  | b :: rest =>
    if b = 0x30 then
      if rest.head?.any isDigit then .error (.ahead .invalidNumber rest) else skipAfterWhole rest
    else if isDigit b then skipAfterWhole (rest.dropWhile isDigit)
    else .error (.here .invalidNumber rest)

/-- Passes the rest of an open list.  After a comma an element has to follow. -/
def skipElements (skip : Bytes → Except Fault Bytes) : Nat → Bool → Bytes → Except Fault Bytes
  | 0, _, bs => .error (.ahead .endInList bs)
  | fuel + 1, first, bs =>
    match skipBlanks bs with
    | [] => .error (.ahead .endInList [])
    | b :: rest =>
      if b = 0x5D then .ok rest
      else if first then do skipElements skip fuel false (← skip (b :: rest))
      else if b = 0x2C then do skipElements skip fuel false (← skip rest)
      else .error (.ahead .expectedListEnd (b :: rest))

/-- Passes the name of a member, which has to follow, and its colon. -/
def skipName (bs : Bytes) : Except Fault Bytes :=
  match skipBlanks bs with
  | [] => .error (.ahead .endInObject [])
  | b :: rest =>
    if b = 0x22 then do colon (← skipString rest)
    else .error (.ahead .nameNotString (b :: rest))

/-- Passes the rest of an open object.  After a comma a member has to follow. -/
def skipMembers (skip : Bytes → Except Fault Bytes) : Nat → Bool → Bytes → Except Fault Bytes
  | 0, _, bs => .error (.ahead .endInObject bs)
  | fuel + 1, first, bs =>
    match skipBlanks bs with
    | [] => .error (.ahead .endInObject [])
    | b :: rest =>
      if b = 0x7D then .ok rest
      else if first then do skipMembers skip fuel false (← skip (← skipName (b :: rest)))
      else if b = 0x2C then do skipMembers skip fuel false (← skip (← skipName rest))
      else .error (.ahead .expectedObjectEnd (b :: rest))

/-- Passes a value.  The fuel bounds the nesting and the number of parts of each
container; the length of the text suffices. -/
def skipNested : Nat → Bytes → Except Fault Bytes
  | 0, bs => .error (.ahead .endInValue bs)
  | fuel + 1, bs =>
    match skipBlanks bs with
    | [] => .error (.ahead .endInValue [])
    | b :: rest =>
      if b = 0x6E then word nullTail rest
      else if b = 0x74 then word trueTail rest
      else if b = 0x66 then word falseTail rest
      else if b = 0x2D then skipNumber rest
      else if isDigit b then skipNumber (b :: rest)
      else if b = 0x22 then skipString rest
      else if b = 0x5B then skipElements (skipNested fuel) (fuel + 1) true rest
      else if b = 0x7B then skipMembers (skipNested fuel) (fuel + 1) true rest
      else .error (.ahead .expectedValue (b :: rest))

/-- Passes a value, whatever it is. -/
def skipValue (bs : Bytes) : Except Fault Bytes := skipNested (bs.length + 1) bs

end SignIn.Json
