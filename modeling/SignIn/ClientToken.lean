/-!
# Fresh tokens

A token for a new installation is a random identifier of version 4: 128 random bits,
of which six are fixed to say which kind of identifier it is, as hexadecimal digits.

## Main definitions

* `freshToken` — the token that random bits give.
-/

namespace SignIn

/-- The digit of a token at a place: the random one, except where the version and the
variant of the identifier stand. -/
def tokenDigit (random : BitVec 128) (place : Nat) : Nat :=
  let digit := random.toNat >>> (4 * (31 - place)) % 16
  if place = 12 then 4 else if place = 16 then 8 + digit % 4 else digit

/-- The token that random bits give. -/
def freshToken (random : BitVec 128) : String :=
  String.ofList ((List.range 32).map fun place => Nat.digitChar (tokenDigit random place))

/-- A token has 32 digits. -/
@[simp] theorem length_freshToken (random : BitVec 128) : (freshToken random).length = 32 := by
  simp [freshToken]

/-- A token is not empty. -/
theorem freshToken_ne_empty (random : BitVec 128) : freshToken random ≠ "" := by
  intro h
  simpa [h] using length_freshToken random

end SignIn
