import SignIn.Account
import SignIn.Error
import SignIn.Server
import SignIn.Url.Parse

/-!
# Finding a third party's API

A third party's server says in a header of its pages where its API is.  One page is
asked for, and only a success is believed; without the header the page itself is
where the API is.

## Main definitions

* `Discovery.withScheme` — the address that a user means.
* `Discovery.locate` — the address of the API that a reply gives.
* `discover` — asks a server.
* `discoverAccount` — a fresh account on a server.
-/

namespace SignIn

open SignIn.Text

namespace Discovery

/-- The header that says where the API is. -/
def locationHeader : String := "x-authlib-injector-api-location"

/-- Whether a text names a scheme, which `://` anywhere in it tells. -/
def namesScheme : List Char → Bool
  | ':' :: '/' :: '/' :: _ => true
  | _ :: cs => namesScheme cs
  | [] => false

/-- The address that a user means: a text without a scheme is an address on the secure
web, and blanks around it do not count. -/
def withScheme (server : String) : String :=
  let server := trim server
  if namesScheme server.toList then server else "https://" ++ server

/-- The address of the API that the reply from a page gives. -/
def locate (page : Url) (p : Reply) : Except Error Url :=
  if p.status.isNone then .error (.unreachable p.failureMessage)
  else if p.isSuccess then
    match p.header? locationHeader with
    | some location => (page.join location).mapError .invalidUrl
    | none => .ok page
  else .error (.discovery p.failureMessage)

/-- The reply to the one request, which nobody interrupts. -/
def reply (server : Server) (r : Request) : Reply :=
  match server [] r with
  | .reply p | .stopped p => p
  | .silence => .cancelled r.url

end Discovery

/-- Asks a server where its API is; also gives the requests that were sent. -/
def discover (server : Server) (text : String) : Except Error Url × List Request :=
  match Url.parse (Discovery.withScheme text) with
  | .error fault => (.error (.invalidUrl fault), [])
  | .ok page =>
    let r := Request.download page
    (Discovery.locate page (Discovery.reply server r), [r])

/-- A fresh account on a server, which is asked where its API is. -/
def discoverAccount (server : Server) (username text : String) :
    Except Error Account × List Request :=
  let (api, requests) := discover server text
  (api.map fun url => .thirdParty username url.text, requests)

end SignIn
