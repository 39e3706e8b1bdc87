import SignIn.Discovery
import SignIn.Proofs.Settings
import SignIn.Proofs.Url.Web

/-!
# Requests to a third party

A third party's account keeps the address of an API as text, and every request appends its part to
that text and reads it again.  The address comes from a page or from a reference in a header, and
under a web scheme it can be written.  What is appended comes to stand behind its path exactly if
the address ends with the path and the name of its host is read again: behind a query or a fragment
it would become a part of these, and the request would go to the address itself.

## Main results

* `isWeb_of_discover` — the address of an API is a URL that can be written.
* `discoverAccount_requests` — the requests of an account that has been found.
-/

namespace SignIn

open SignIn.Text

/-! ### The address of an API -/

/-- The one page that a text means is asked for. -/
theorem discover_of_parse {text : String} {page : Url}
    (h : Url.parse (Discovery.withScheme text) = .ok page) (server : Server) :
    discover server text =
      (Discovery.locate page (Discovery.reply server (.download page)), [.download page]) := by
  unfold discover
  rw [h]

theorem Discovery.locate_eq_ok {page : Url} {p : Reply} {u : Url} (h : locate page p = .ok u) :
    u = page ∨ ∃ location, page.join location = .ok u := by
  unfold locate at h
  split at h
  · cases h
  · split at h
    · split at h
      · rename_i location _
        exact .inr ⟨location, mapError_eq_ok_iff.1 h⟩
      · exact .inl (Except.ok.inj h).symm
    · cases h

/-- **The address of an API can be written** under a web scheme. -/
theorem isWeb_of_discover {server : Server} {text : String} {u : Url}
    (h : (discover server text).1 = .ok u) (hu : Url.SchemeKind.of u.scheme = .web) :
    ∃ a segments, u.IsWeb a segments := by
  unfold discover at h
  split at h
  · cases h
  · rename_i page hpage
    obtain rfl | ⟨location, hjoin⟩ := Discovery.locate_eq_ok h
    · exact Url.isWeb_of_parse hpage hu
    · exact Url.isWeb_of_join (fun hbase => Url.isWeb_of_parse hpage hbase) hjoin hu

theorem discoverAccount_of_discover {server : Server} {text : String} {u : Url}
    (h : (discover server text).1 = .ok u) (username : String) :
    (discoverAccount server username text).1 = .ok (.thirdParty username u.text) := by
  unfold discoverAccount
  rcases hasked : discover server text with ⟨api, requests⟩
  rw [hasked] at h
  obtain rfl : api = .ok u := h
  rfl

/-! ### Requests to it -/

section Addresses

variable {s : Settings} {a : Account} {address : String} (ha : a.service = .thirdParty address)

include ha

theorem authenticationAddress_thirdParty (k : Authentication.Kind) :
    a.authServerUrl s ++ "/" ++ k.endpoint = Url.joined address ("authserver/" ++ k.endpoint) := by
  have hparts : "/authserver" ++ "/" = "/" ++ "authserver/" := by decide
  have hassoc : "/authserver" ++ ("/" ++ k.endpoint) = "/" ++ ("authserver/" ++ k.endpoint) := by
    rw [← String.append_assoc, ← String.append_assoc, hparts]
  simp only [Account.authServerUrl, ha, Url.joined, String.append_assoc]
  exact congrArg (Account.withoutEndSlashes address ++ ·) hassoc

theorem lookupAddress_thirdParty : Lookup.address s a =
    Url.joined address ("sessionserver/session/minecraft/profile/" ++ a.profile.id) := by
  have hparts : "/sessionserver" ++ "/session/minecraft/profile/" =
      "/" ++ "sessionserver/session/minecraft/profile/" := by decide
  have hassoc : "/sessionserver" ++ ("/session/minecraft/profile/" ++ a.profile.id) =
      "/" ++ ("sessionserver/session/minecraft/profile/" ++ a.profile.id) := by
    rw [← String.append_assoc, ← String.append_assoc, hparts]
  simp only [Lookup.address, Account.sessionServerUrl, ha, Url.joined, String.append_assoc]
  exact congrArg (Account.withoutEndSlashes address ++ ·) hassoc

end Addresses

theorem isPath_of_isAlphanum {parts : List String} (hne : parts ≠ [])
    (h : ∀ part ∈ parts, part.toList.all Char.isAlphanum = true) : Url.IsPath parts :=
  ⟨hne, fun part hpart => Url.isSegment_of_isAlphanum (List.all_eq_true.1 (h part hpart))⟩

theorem writes_authentication (k : Authentication.Kind) :
    Url.Writes ("authserver/" ++ k.endpoint) ["authserver", k.endpoint] := by
  refine ⟨by cases k <;> decide, isPath_of_isAlphanum (List.cons_ne_nil _ _) ?_,
    by rw [List.head?_cons]; decide⟩
  cases k <;> decide

theorem writes_lookup {id : String} (h : IsHexadecimal id) :
    Url.Writes ("sessionserver/session/minecraft/profile/" ++ id)
      ["sessionserver", "session", "minecraft", "profile", id] := by
  have hwords : ∀ part ∈ ["sessionserver", "session", "minecraft", "profile"],
      part.toList.all Char.isAlphanum = true := by decide
  refine ⟨?_, isPath_of_isAlphanum (List.cons_ne_nil _ _) fun part hpart => ?_,
    by rw [List.head?_cons]; decide⟩
  · simp only [Url.pathChars_cons, Url.pathChars_nil, String.toList_append, List.append_nil]
    rfl
  · obtain hpart | hpart := List.mem_append.1
      (show part ∈ ["sessionserver", "session", "minecraft", "profile"] ++ [id] from hpart)
    · exact hwords part hpart
    · obtain rfl := List.mem_singleton.1 hpart
      exact List.all_eq_true.2 h.isAlphanum

/-- **The requests of an account that has been found land below the address of its API** exactly if
the address has neither query nor fragment and the name of its host is read again. -/
theorem discoverAccount_requests {server : Server} {text : String} {u : Url}
    (h : (discover server text).1 = .ok u) (hu : Url.SchemeKind.of u.scheme = .web)
    (username : String) :
    ∃ a, (discoverAccount server username text).1 = .ok a ∧
      ∀ (s : Settings) (b : Account), b.service = a.service →
        (∀ (auth : Authentication) (k : Authentication.Kind),
          (∃ r, auth.request s b k = .ok r ∧ r.url.IsBelow u ["authserver", k.endpoint]) ↔
            u.IsRoot) ∧
        (IsHexadecimal b.profile.id →
          ((∃ r, Lookup.request s b = .ok r ∧ r.url.IsBelow u
            ["sessionserver", "session", "minecraft", "profile", b.profile.id]) ↔ u.IsRoot)) := by
  obtain ⟨a, segments, hweb⟩ := isWeb_of_discover h hu
  refine ⟨_, discoverAccount_of_discover h username, fun s b hb => ⟨fun auth k => ?_,
    fun hid => ?_⟩⟩
  · rw [Authentication.exists_request_to_iff (·.IsBelow u _), authenticationAddress_thirdParty hb]
    exact hweb.joined_isBelow_iff (writes_authentication k)
  · rw [Lookup.exists_request_to_iff (·.IsBelow u _), lookupAddress_thirdParty hb]
    exact hweb.joined_isBelow_iff (writes_lookup hid)

/-! ### Two servers -/

/-- A server that succeeds and says nothing of an API. -/
def quiet : Server := fun _ r => .reply ⟨r.url, some 200, [], [], none⟩

theorem discover_quiet {text : String} {page : Url}
    (h : Url.parse (Discovery.withScheme text) = .ok page) :
    (discover quiet text).1 = .ok page := by
  rw [discover_of_parse h]
  rfl

/-- The requests of an account on the server `a` go below `https://a/`. -/
theorem discoverAccount_requests_word :
    ∃ u a, (discover quiet "a").1 = .ok u ∧ Url.SchemeKind.of u.scheme = .web ∧
      (discoverAccount quiet "alex" "a").1 = .ok a ∧
        (∀ (auth : Authentication) (k : Authentication.Kind), ∃ r, auth.request .default a k = .ok r ∧
          r.url.IsBelow u ["authserver", k.endpoint]) ∧
        ∃ r, Lookup.request .default a = .ok r ∧ r.url.IsBelow u
          ["sessionserver", "session", "minecraft", "profile", a.profile.id] := by
  have hs : Url.splitScheme (Url.prepare (Discovery.withScheme "a")) =
      some ("https", '/' :: '/' :: (['a'] ++ [])) := by decide
  have hu := discover_quiet
    (Url.parse_of_word (by decide) Settings.isLower_a (List.cons_ne_nil _ _) hs Url.endsPath_nil)
  obtain ⟨a, ha, hrequests⟩ := discoverAccount_requests hu (by decide) "alex"
  have hroot : (Url.ofWord "https" ['a'] []).IsRoot := by
    refine ⟨rfl, rfl, fun name hname => ?_⟩
    obtain rfl := Url.Host.name.inj (Option.some.inj hname)
    exact Url.Host.readsBack_of_isPlainName (Url.isPlainName_of_isLower Settings.isLower_a)
      (by decide) (Url.endsInNumber_of_isLower Settings.isLower_a (List.cons_ne_nil _ _))
  have hid : a.profile.id = "" := by
    rw [discoverAccount_of_discover hu] at ha
    obtain rfl := Except.ok.inj ha
    rfl
  obtain ⟨hauth, hlookup⟩ := hrequests .default a rfl
  refine ⟨_, a, hu, by decide, ha, fun auth k => (hauth auth k).2 hroot, (hlookup ?_).2 hroot⟩
  rw [hid]
  exact nofun

/-- Below an address with a query, no request of a login or a refresh arrives. -/
theorem discoverAccount_query :
    ∃ u a, (discover quiet "a?v").1 = .ok u ∧ u.scheme = "https" ∧
      (discoverAccount quiet "alex" "a?v").1 = .ok a ∧
        ∀ (auth : Authentication) (k : Authentication.Kind),
          ¬ ∃ r, auth.request .default a k = .ok r ∧
            r.url.IsBelow u ["authserver", k.endpoint] := by
  have hs : Url.splitScheme (Url.prepare (Discovery.withScheme "a?v")) =
      some ("https", '/' :: '/' :: (['a'] ++ "?v".toList)) := by decide
  have hu := discover_quiet
    (Url.parse_of_word (by decide) Settings.isLower_a (List.cons_ne_nil _ _) hs
      fun c hc => .inl (Option.some.inj hc).symm)
  obtain ⟨a, segments, hweb⟩ := isWeb_of_discover hu (by decide)
  refine ⟨_, _, hu, rfl, discoverAccount_of_discover hu "alex", fun auth k => ?_⟩
  rw [Authentication.exists_request_to_iff (·.IsBelow _ _), authenticationAddress_thirdParty rfl,
    hweb.joined_isBelow_iff (writes_authentication k)]
  intro hroot
  cases hroot.query

end SignIn
