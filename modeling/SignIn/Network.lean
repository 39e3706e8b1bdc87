import SignIn.Server
import SignIn.Url.Percent

/-!
# A network without connections

Where no connection can be opened, every request fails.  Requests that could not be
sent anywhere fail for that reason already: only two schemes are spoken.

User name and password of a URL are sent apart from it, so a message does not show
them; what cannot be sent as text stays in the URL.

## Main definitions

* `Network.shownUrl` — the URL that a message shows.
* `Network.unconnected` — the server that every request meets.
-/

namespace SignIn

open SignIn.Text

namespace Network

/-- What percent-encoded text stands for, if that is text. -/
def decoded? (s : String) : Option String :=
  Utf8.decode? (Url.percentDecode (Utf8.encode s))

/-- Whether user name and password are sent apart from the URL. -/
def hasCredentials (a : Url.Authority) : Bool :=
  match decoded? a.username with
  | none => false
  | some name => name != "" || (a.password != "" && (decoded? a.password).isSome)

/-- The URL that a message shows. -/
def shownUrl (u : Url) : Url :=
  { u with authority := u.authority.map fun a =>
      if hasCredentials a then { a with username := "", password := "" } else a }

/-- The failure of a request. -/
def failure (u : Url) : Failure :=
  let place := " for url (" ++ (shownUrl u).text ++ ")"
  if u.scheme = "http" ∨ u.scheme = "https" then
    ⟨.connectionRefused, "error sending request" ++ place⟩
  else ⟨.transport, "builder error" ++ place⟩

/-- Every request fails. -/
def unconnected : Server := fun _ r =>
  .reply (.ofFailure r.url (failure r.url).kind (failure r.url).message)

end Network

end SignIn
