import SignIn.Json.Skip

/-!
# Reading values

A reader takes the number of containers that may still be opened and the bytes of
the text.  Each reader of a particular kind refuses other kinds by naming what it
found and what it expected.

## Main definitions

* `Reader` — readers of a type of values.
* `anyValue` — any value.
* `text`, `flag`, `word64`, `optional`, `list` — values of one kind.
* `choice` — one of two words.
* `read` — a whole text.
-/

namespace SignIn.Json

open SignIn.Text SignIn.Number

/-- A reader of values, given how many containers may still be opened. -/
abbrev Reader (α : Type) := Nat → Bytes → Except Fault (α × Bytes)

/-- How many containers may stand inside one another. -/
def depthLimit : Nat := 127

/-- Opens a container: `inner` reads from after the bracket with one container less
to open. -/
def enter {α : Type} (room : Nat) (b : UInt8) (rest : Bytes)
    (inner : Nat → Except Fault (α × Bytes)) : Except Fault (α × Bytes) :=
  match room with
  | 0 => .error (.ahead .tooDeep (b :: rest))
  | room + 1 => inner room

/-! ### Any value -/

/-- Reads an object into its members; a repeated name has the value given last. -/
def anyMember (value : Bytes → Except Fault (Value × Bytes)) (ms : List (String × Value))
    (name : String) (bs : Bytes) : Except Fault (List (String × Value) × Bytes) := do
  let (v, bs) ← value (← colon bs)
  return (put name v ms, bs)

/-- Reads an element after the ones given, which are in reverse order. -/
def anyElement (value : Bytes → Except Fault (Value × Bytes)) (vs : List Value)
    (bs : Bytes) : Except Fault (List Value × Bytes) := do
  let (v, bs) ← value bs
  return (v :: vs, bs)

/-- Any value. -/
def anyValue (room : Nat) (bs : Bytes) : Except Fault (Value × Bytes) :=
  match skipBlanks bs with
  | [] => .error (.ahead .endInValue [])
  | b :: rest =>
    if b = 0x6E then (word nullTail rest).map (.null, ·)
    else if b = 0x74 then (word trueTail rest).map (.bool true, ·)
    else if b = 0x66 then (word falseTail rest).map (.bool false, ·)
    else if b = 0x2D then (number true rest).map fun (n, r) => (.number n, r)
    else if isDigit b then (number false (b :: rest)).map fun (n, r) => (.number n, r)
    else if b = 0x22 then (string rest).map fun (s, r) => (.string s, r)
    else if b = 0x5B then
      match room with
      | 0 => .error (.ahead .tooDeep (b :: rest))
      | room + 1 =>
        (settleList (foldElements (anyElement (anyValue room)) (rest.length + 1) true [] rest)).map
          fun (vs, r) => (.array vs.reverse, r)
    else if b = 0x7B then
      match room with
      | 0 => .error (.ahead .tooDeep (b :: rest))
      | room + 1 =>
        (settleObject (foldMembers (anyMember (anyValue room)) (rest.length + 1) true [] rest)).map
          fun (ms, r) => (.object ms, r)
    else .error (.ahead .expectedValue (b :: rest))

/-! ### Values of one kind -/

/-- The fault of a value of another kind than expected.  Plain values are read
first, so a malformed one is reported as such; containers are not entered. -/
def wrongKind (expected : String) (bs : Bytes) : Fault :=
  let found (x : Found) (rest : Bytes) : Fault := .here (.wrongKind x expected) rest
  let after (x : Found) (r : Except Fault Bytes) : Fault :=
    match r with
    | .ok rest => found x rest
    | .error f => f
  let numeral (r : Except Fault (Numeral × Bytes)) : Fault :=
    match r with
    | .ok (n, rest) => found (.number n) rest
    | .error f => f
  match bs with
  | [] => .ahead .expectedValue []
  | b :: rest =>
    if b = 0x6E then after .null (word nullTail rest)
    else if b = 0x74 then after (.bool true) (word trueTail rest)
    else if b = 0x66 then after (.bool false) (word falseTail rest)
    else if b = 0x2D then numeral (number true rest)
    else if isDigit b then numeral (number false bs)
    else if b = 0x22 then
      match string rest with
      | .ok (s, rest) => found (.string s) rest
      | .error f => f
    else if b = 0x5B then found .sequence bs
    else if b = 0x7B then found .map bs
    else .ahead .expectedValue bs

/-- A text, where `expected` says what it should be. -/
def textAs (expected : String) : Reader String := fun _ bs =>
  match skipBlanks bs with
  | [] => .error (.ahead .endInValue [])
  | b :: rest => if b = 0x22 then string rest else .error (wrongKind expected (b :: rest))

/-- A text. -/
def text : Reader String := textAs "a string"

/-- A text that another reader then reads. -/
def parsed {α : Type} (expected : String) (parse : String → Except String α) : Reader α :=
  fun room bs => do
    let (s, bs) ← textAs expected room bs
    match parse s with
    | .ok a => return (a, bs)
    | .error reason => throw (.here (.unreadable reason) bs)

/-- A truth value. -/
def flag : Reader Bool := fun _ bs =>
  match skipBlanks bs with
  | [] => .error (.ahead .endInValue [])
  | b :: rest =>
    if b = 0x74 then (word trueTail rest).map (true, ·)
    else if b = 0x66 then (word falseTail rest).map (false, ·)
    else .error (wrongKind "a boolean" (b :: rest))

/-- The value `null`. -/
def unit : Reader Unit := fun _ bs =>
  match skipBlanks bs with
  | [] => .error (.ahead .endInValue [])
  | b :: rest =>
    if b = 0x6E then (word nullTail rest).map ((), ·)
    else .error (wrongKind "unit" (b :: rest))

/-- A whole number of 64 bits. -/
def word64 : Reader Nat := fun _ bs =>
  match skipBlanks bs with
  | [] => .error (.ahead .endInValue [])
  | b :: rest =>
    if b = 0x2D ∨ isDigit b then do
      let (n, rest) ← if b = 0x2D then number true rest else number false (b :: rest)
      match n with
      | .integer (.ofNat n) => return (n, rest)
      | .integer n => throw (.here (.wrongValue (.number (.integer n)) "u64") rest)
      | .float x => throw (.here (.wrongKind (.number (.float x)) "u64") rest)
    else .error (wrongKind "u64" (b :: rest))

/-- A value that may be `null`. -/
def optional {α : Type} (value : Reader α) : Reader (Option α) := fun room bs =>
  match skipBlanks bs with
  | 0x6E :: rest => (word nullTail rest).map (none, ·)
  | bs => (value room bs).map fun (a, r) => (some a, r)

/-- A list of values of one kind. -/
def list {α : Type} (item : Reader α) : Reader (List α) := fun room bs =>
  match skipBlanks bs with
  | [] => .error (.ahead .endInValue [])
  | b :: rest =>
    if b = 0x5B then
      enter room b rest fun room =>
        (settleList (foldElements
          (fun xs bs => (item room bs).map fun (x, r) => (x :: xs, r))
          (rest.length + 1) true [] rest)).map fun (xs, r) => (xs.reverse, r)
    else .error (wrongKind "a sequence" (b :: rest))

/-- One of two words, also written as an object whose only member has the word as
its name and `null` as its value. -/
def choice {α : Type} (first second : String) (a b : α) : Reader α := fun room bs =>
  let pick (room : Nat) (bs : Bytes) : Except Fault (α × Bytes) := do
    let (s, bs) ← textAs "variant identifier" room bs
    if s = first then return (a, bs)
    else if s = second then return (b, bs)
    else throw (.here (.unknownVariant s first second) bs)
  match skipBlanks bs with
  | [] => .error (.ahead .endInValue [])
  | c :: rest =>
    if c = 0x7B then
      enter room c rest fun room => do
        let (x, bs) ← pick room rest
        let ((), bs) ← unit room (← colon bs)
        match skipBlanks bs with
        | [] => throw (.here .endInObject [])
        | d :: bs => if d = 0x7D then return (x, bs) else throw (.here .expectedValue (d :: bs))
    else if c = 0x22 then pick room (c :: rest)
    else .error (.ahead .expectedValue (c :: rest))

/-! ### Whole texts -/

/-- Only blanks may follow the value of a text. -/
def finish {α : Type} (r : Except Fault (α × Bytes)) : Except Fault α := do
  let (a, bs) ← r
  match skipBlanks bs with
  | [] => return a
  | rest => throw (.ahead .trailingCharacters rest)

/-- Reads a whole text. -/
def read {α : Type} (reader : Reader α) (bytes : Bytes) : Except Mistake α :=
  (finish (reader depthLimit bytes)).mapError (Fault.inText bytes)

end SignIn.Json
