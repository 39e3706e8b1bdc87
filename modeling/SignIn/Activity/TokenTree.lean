/-!
# Trees of cancellation tokens

Work is told to stop through tokens.  A token may be made below another one, and
cancelling a token cancels all tokens below it, also those made later.  Nothing
undoes a cancellation.

A tree lists its tokens, the latest first, so that a token's number is the number of
tokens made before it.

## Main definitions

* `TokenTree` — the tokens.
* `TokenTree.add` — makes a token.
* `TokenTree.cancel` — cancels a token and those below it.
* `TokenTree.isCancelled` — whether a token or one above it was cancelled.
-/

namespace SignIn

/-- The number of a token: how many tokens were made before it. -/
abbrev TokenId := Nat

/-- One token. -/
structure Token where
  /-- The token that it was made below. -/
  parent : Option TokenId
  /-- Whether it was cancelled itself. -/
  marked : Bool
  deriving DecidableEq, Repr

/-- Tokens, the latest first. -/
abbrev TokenTree := List Token

namespace TokenTree

/-- Makes a token; gives the tree and the token's number. -/
def add (tree : TokenTree) (parent : Option TokenId) : TokenTree × TokenId :=
  (⟨parent, false⟩ :: tree, tree.length)

/-- Cancels a token. -/
def cancel : TokenTree → TokenId → TokenTree
  | [], _ => []
  | t :: ts, id =>
    if id = ts.length then { t with marked := true } :: ts else t :: cancel ts id

/-- Whether a token, or one that it was made below, was cancelled.  Tokens are made
below earlier ones only. -/
def isCancelled : TokenTree → TokenId → Bool
  | [], _ => false
  | t :: ts, id =>
    if id = ts.length then
      t.marked || match t.parent with
        | some p => isCancelled ts p
        | none => false
    else isCancelled ts id

end TokenTree

end SignIn
