import SignIn.Activity
import SignIn.Activity.TokenTree

/-!
# Activities and their tokens

A board keeps activities, each with a token through which it is told to stop.  An
activity is made alone, below a token, or below the token of another activity.

Asking an activity to stop cancels its token and aborts it at once; cancelling a
token above it does not touch the activity itself.

## Main definitions

* `Board` — tokens and activities.
* `Board.addToken`, `Board.addActivity` — making them.
* `Board.update`, `Board.cancel`, `Board.cancelToken` — changing them.
* `Board.isCancelled` — whether an activity is told to stop.
-/

namespace SignIn

/-- The number of an activity: how many were made before it. -/
abbrev ActivityId := Nat

/-- Tokens and activities. -/
structure Board where
  /-- All tokens. -/
  tokens : TokenTree
  /-- The activities in the order in which they were made, each with its token. -/
  activities : List (Activity × TokenId)
  deriving DecidableEq, Repr

namespace Board

/-- A board without anything on it. -/
def empty : Board := ⟨[], []⟩

/-- Makes a token that stands alone. -/
def addToken (b : Board) : Board × TokenId :=
  let (tokens, id) := b.tokens.add none
  ({ b with tokens := tokens }, id)

/-- Makes an activity, whose token is made below the one given. -/
def addActivity (b : Board) (name : String) (parent : Option TokenId) : Board × ActivityId :=
  let (tokens, token) := b.tokens.add parent
  (⟨tokens, b.activities ++ [(.new name, token)]⟩, b.activities.length)

/-- An activity and its token. -/
def get? (b : Board) (id : ActivityId) : Option (Activity × TokenId) := b.activities[id]?

/-- Whether an activity is told to stop. -/
def isCancelled (b : Board) (id : ActivityId) : Bool :=
  match b.get? id with
  | some (_, token) => b.tokens.isCancelled token
  | none => false

/-- Puts an activity in the place of the one with a number. -/
def set (b : Board) (id : ActivityId) (a : Activity) : Board :=
  { b with activities := b.activities.modify id fun (_, token) => (a, token) }

/-- Asks an activity for an update; tells whether it was accepted. -/
def update (b : Board) (id : ActivityId) (u : Update) : Board × Bool :=
  match b.get? id with
  | some (a, _) =>
    let (a, accepted) := a.update u
    (b.set id a, accepted)
  | none => (b, false)

/-- Starts an activity, which is an error unless it is the first time. -/
def start (b : Board) (id : ActivityId) : Board × Bool := b.update id .start

/-- Cancels a token. -/
def cancelToken (b : Board) (token : TokenId) : Board :=
  { b with tokens := b.tokens.cancel token }

/-- Asks an activity to stop: cancels its token and aborts it, unless it has ended;
tells whether it was aborted by that. -/
def cancel (b : Board) (id : ActivityId) : Board × Bool :=
  match b.get? id with
  | some (a, token) =>
    if a.phase.isTerminal then (b, false) else (b.cancelToken token).update id .abort
  | none => (b, false)

end Board

end SignIn
