import SignIn.Text.Blank
import SignIn.Text.Utf8

/-!
# Menus

Where a server leaves a choice, the user picks one of several options.  On a terminal
the options are numbered from one, and the user types a number; anything else picks
nothing.

## Main definitions

* `Menu` — what the user is offered.
* `Menu.text` — what a terminal shows.
* `Menu.picked?` — the option that a typed line picks.
* `Menu.answer?` — the option that is picked by what is typed.
* `Picker` — what the user does with a menu.
-/

namespace SignIn

open SignIn.Text

/-- What the user is offered. -/
structure Menu where
  /-- The title. -/
  title : String
  /-- The question. -/
  prompt : String
  /-- The options, in order. -/
  options : List String
  deriving DecidableEq, Repr

/-- What the user does with a menu. -/
inductive Pick where
  /-- Picks an option by its text, or nothing. -/
  | chosen (name : Option String)
  /-- Tells the work to stop, and picks all the same. -/
  | stopped (name : Option String)
  deriving DecidableEq, Repr

/-- What the user does with a menu, given the menus shown before it in order. -/
abbrev Picker := List Menu → Menu → Pick

namespace Menu

/-- The lines for the options. -/
def optionLines (m : Menu) : List String :=
  m.options.zipIdx.map fun (option, i) => "  [" ++ toString (i + 1) ++ "] " ++ option

/-- What a terminal shows before the user types. -/
def text (m : Menu) : String :=
  String.join ((m.title :: m.prompt :: m.optionLines).map (· ++ "\n")) ++
    "Profile number (empty to cancel): "

/-- The number that a run of digits gives; there has to be a digit. -/
def digits? : List Char → Option Nat
  | [] => none
  | c :: cs =>
    if (c :: cs).all Char.isDigit then
      some ((c :: cs).foldl (fun n d => 10 * n + (d.toNat - '0'.toNat)) 0)
    else none

/-- The number that a text gives: digits, after a plus sign or not, that fit into 64
bits. -/
def number? (s : String) : Option Nat :=
  let digits := match s.toList with
    | '+' :: cs => cs
    | cs => cs
  (digits? digits).filter (· < UInt64.size)

/-- The option that a typed line picks.  Blanks around the number do not count. -/
def picked? (options : List String) (line : String) : Option String :=
  match number? (trim line) with
  | some (n + 1) => options[n]?
  | _ => none

/-- The bytes of the first line, with its end. -/
def firstLine : Bytes → Bytes
  | [] => []
  | b :: bs => if b = 0x0A then [b] else b :: firstLine bs

/-- The option that is picked by what is typed, which is read up to the end of the first
line.  A line that is no text picks nothing. -/
def answer? (options : List String) (typed : Bytes) : Option String :=
  (Utf8.decode? (firstLine typed)).bind fun line => picked? options (withoutLineEnd line)

end Menu

end SignIn
