/-!
# Headers

Requests and responses carry named texts in order.  Names are compared without
regard to the case of their ASCII letters.

## Main definitions

* `Headers` — headers in order.
* `Headers.find?` — the value of the first header of a name.
-/

namespace SignIn

/-- Headers in order, each a name and a value. -/
abbrev Headers := List (String × String)

/-- Whether two names differ at most in the case of ASCII letters. -/
def sameName (a b : String) : Bool := a.toList.map Char.toLower == b.toList.map Char.toLower

/-- The value of the first header of a name. -/
def Headers.find? (hs : Headers) (name : String) : Option String :=
  (List.find? (sameName ·.1 name) hs).map (·.2)

end SignIn
