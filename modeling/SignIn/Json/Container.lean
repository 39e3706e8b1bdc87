import SignIn.Json.Scan

/-!
# Walking lists and objects

Elements are separated by commas, members too.  The walk is the same whatever is
read: a step reads one element, or the part of a member after its name, and adds it
to what has been read so far.

The closing bracket is read by `closeList` or `closeObject` only after the step's
result is settled, so that a fault of meaning is placed behind it.

## Main definitions

* `foldElements`, `foldMembers` — the walks.
* `colon` — the separator between a name and its value.
* `settleList`, `settleObject` — closing a container around a result.
-/

namespace SignIn.Json

/-! ### Separators -/

/-- Whether another element follows, and what is left: from its first byte, or
from the closing bracket. -/
def nextElement (first : Bool) (bs : Bytes) : Except Fault (Bool × Bytes) :=
  match skipBlanks bs with
  | [] => .error (.ahead .endInList [])
  | b :: rest =>
    if b = 0x5D then .ok (false, b :: rest)
    else if first then .ok (true, b :: rest)
    else if b = 0x2C then
      match skipBlanks rest with
      | [] => .error (.ahead .endInValue [])
      | c :: rest =>
        if c = 0x5D then .error (.ahead .trailingComma (c :: rest)) else .ok (true, c :: rest)
    else .error (.ahead .expectedListEnd (b :: rest))

/-- The name of the next member, or none when the closing bracket follows. -/
def nextName (first : Bool) (bs : Bytes) : Except Fault (Option String × Bytes) :=
  match skipBlanks bs with
  | [] => .error (.ahead .endInObject [])
  | b :: rest =>
    if b = 0x7D then .ok (none, b :: rest)
    else if first then
      if b = 0x22 then (string rest).map fun (s, r) => (some s, r)
      else .error (.ahead .nameNotString (b :: rest))
    else if b = 0x2C then
      match skipBlanks rest with
      | [] => .error (.ahead .endInValue [])
      | c :: rest =>
        if c = 0x22 then (string rest).map fun (s, r) => (some s, r)
        else if c = 0x7D then .error (.ahead .trailingComma (c :: rest))
        else .error (.ahead .nameNotString (c :: rest))
    else .error (.ahead .expectedObjectEnd (b :: rest))

/-- The colon after the name of a member. -/
def colon (bs : Bytes) : Except Fault Bytes :=
  match skipBlanks bs with
  | [] => .error (.ahead .endInObject [])
  | b :: rest => if b = 0x3A then .ok rest else .error (.ahead .expectedColon (b :: rest))

/-! ### Walks -/

/-- Reads the elements of an open list up to its closing bracket.  The fuel bounds
their number; the length of the text suffices. -/
def foldElements {σ : Type} (step : σ → Bytes → Except Fault (σ × Bytes)) :
    Nat → Bool → σ → Bytes → Except Fault (σ × Bytes)
  | 0, _, _, bs => .error (.ahead .endInList bs)
  | fuel + 1, first, acc, bs => do
    let (more, bs) ← nextElement first bs
    if more then
      let (acc, bs) ← step acc bs
      foldElements step fuel false acc bs
    else return (acc, bs)

/-- Reads the members of an open object up to its closing bracket.  The step reads
from after the name, the colon included. -/
def foldMembers {σ : Type} (step : σ → String → Bytes → Except Fault (σ × Bytes)) :
    Nat → Bool → σ → Bytes → Except Fault (σ × Bytes)
  | 0, _, _, bs => .error (.ahead .endInObject bs)
  | fuel + 1, first, acc, bs => do
    let (name, bs) ← nextName first bs
    match name with
    | some name =>
      let (acc, bs) ← step acc name bs
      foldMembers step fuel false acc bs
    | none => return (acc, bs)

/-! ### Closing brackets -/

/-- The closing bracket of a list. -/
def closeList (bs : Bytes) : Except Fault Bytes :=
  match skipBlanks bs with
  | [] => .error (.ahead .endInList [])
  | b :: rest =>
    if b = 0x5D then .ok rest
    else if b = 0x2C then
      let rest := skipBlanks rest
      if rest.head? = some 0x5D then .error (.ahead .trailingComma rest)
      else .error (.ahead .trailingCharacters rest)
    else .error (.ahead .trailingCharacters (b :: rest))

/-- What is left behind a list whose reading failed: a closing bracket is passed,
or a comma and blanks. -/
def pastList (bs : Bytes) : Bytes :=
  match skipBlanks bs with
  | [] => []
  | b :: rest =>
    if b = 0x5D then rest else if b = 0x2C then skipBlanks rest else b :: rest

/-- The closing bracket of an object. -/
def closeObject (bs : Bytes) : Except Fault Bytes :=
  match skipBlanks bs with
  | [] => .error (.ahead .endInObject [])
  | b :: rest =>
    if b = 0x7D then .ok rest
    else if b = 0x2C then .error (.ahead .trailingComma (b :: rest))
    else .error (.ahead .trailingCharacters (b :: rest))

/-- What is left behind an object whose reading failed: a closing bracket is passed. -/
def pastObject (bs : Bytes) : Bytes :=
  match skipBlanks bs with
  | [] => []
  | b :: rest => if b = 0x7D then rest else b :: rest

/-- Closes a list around what was read of it; a fault of meaning is placed behind
the bracket. -/
def settleList {α : Type} (r : Except Fault (α × Bytes)) : Except Fault (α × Bytes) :=
  match r with
  | .ok (a, bs) => (closeList bs).map (a, ·)
  | .error (.unlocated c bs) => .error (.here c (pastList bs))
  | .error f => .error f

/-- Closes an object around what was read of it; a fault of meaning is placed
behind the bracket. -/
def settleObject {α : Type} (r : Except Fault (α × Bytes)) : Except Fault (α × Bytes) :=
  match r with
  | .ok (a, bs) => (closeObject bs).map (a, ·)
  | .error (.unlocated c bs) => .error (.here c (pastObject bs))
  | .error f => .error f

end SignIn.Json
