import SignIn.Text.Unprintable

/-!
# Quoted text

A text inside an error message stands between double quotes.  The quote, the
backslash and four control characters have two-character escapes, every other
unprintable character is shown by its number, and the apostrophe stays.

## Main definitions

* `hexDigits` — a number in lower-case hexadecimal, without leading zeros.
* `escapeChar` — what stands for one character.
* `quote` — the quoted text.
-/

namespace SignIn.Text

/-- The lower-case hexadecimal digits of a number; zero has one. -/
def hexDigits (n : Nat) : String := String.ofList (Nat.toDigits 16 n)

/-- What stands for one character between the quotes. -/
def escapeChar (c : Char) : List Char :=
  if c = '\x00' then ['\\', '0']
  else if c = '\t' then ['\\', 't']
  else if c = '\r' then ['\\', 'r']
  else if c = '\n' then ['\\', 'n']
  else if c = '"' then ['\\', '"']
  else if c = '\\' then ['\\', '\\']
  else if isUnprintable c then ("\\u\x7b" ++ hexDigits c.toNat ++ "\x7d").toList
  else [c]

/-- A text between double quotes, with escapes. -/
def quote (s : String) : String :=
  "\"" ++ String.ofList (s.toList.flatMap escapeChar) ++ "\""

end SignIn.Text
