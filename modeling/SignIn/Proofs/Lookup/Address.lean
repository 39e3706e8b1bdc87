import SignIn.Proofs.Lookup.Classification
import SignIn.Proofs.Url.Confined

/-!
# Where the request for a profile goes

The id of a profile comes from a server and may be any text.  It is the last part of an address and
is not escaped, so it may add segments, take back those before it and start a query.  It does not
say where the request goes; the most that it can do is to make a file URL lose its host.

## Main definitions

* `Lookup.SentAlike` — two requests are reached in the same way, or neither can be made.
* `Lookup.identified` — an account whose profile has another id.

## Main results

* `Lookup.request_sentAlike` — **two ids give such requests.**
* `Lookup.request_host_astray` — an id that makes a file lose its host.
-/

namespace SignIn

namespace Lookup

/-- How two requests compare: neither address is a URL, for one reason, or both are URLs that are
reached in the same way. -/
inductive SentAlike : Except Error Request → Except Error Request → Prop
  /-- Neither is made. -/
  | unsent (e : Error) : SentAlike (.error e) (.error e)
  /-- Both are, and they differ in their URLs alone. -/
  | sent {q : Request} {url : Url} (h : url.IsReachedLike q.url) :
    SentAlike (.ok q) (.ok { q with url := url })

theorem request_of_readAlike {s : Settings} {a b : Account}
    (h : Url.ReadAlike (Url.parse (address s a)) (Url.parse (address s b))) :
    SentAlike (request s a) (request s b) := by
  cases ha : Url.parse (address s a) with
  | error f =>
    cases hb : Url.parse (address s b) with
    | error g =>
      rw [ha, hb] at h
      cases h
      rw [request_eq_error ha, request_eq_error hb]
      exact .unsent _
    | ok v =>
      rw [ha, hb] at h
      cases h
  | ok u =>
    cases hb : Url.parse (address s b) with
    | error g =>
      rw [ha, hb] at h
      cases h
    | ok v =>
      rw [ha, hb] at h
      cases h with
      | url h =>
        rw [request_eq_ok ha, request_eq_ok hb]
        exact .sent h

/-- The path to the profiles stands behind the address of the server. -/
theorem prepareFront_profiles (server : String) :
    Url.prepareFront (server ++ "/session/minecraft/profile") =
      Url.prepareFront server ++ "/session/minecraft/profile".toList := by
  have hpath : "/session/minecraft/profile".toList =
      '/' :: "session/minecraft/profile".toList := by decide
  have hkept : ("/session/minecraft/profile".toList.filter
      fun c => c != '\t' && c != '\n' && c != '\r') = "/session/minecraft/profile".toList := by
    decide
  rw [Url.prepareFront, String.toList_append, hpath, Url.dropWhile_append_cons (by decide), ← hpath,
    List.filter_append, hkept, Url.prepareFront]

/-- An account whose profile has another id. -/
def identified (a : Account) (id : String) : Account :=
  { a with profile := { a.profile with id := id } }

theorem address_identified (s : Settings) (a : Account) (id : String) :
    address s (identified a id) =
      a.sessionServerUrl s ++ "/session/minecraft/profile" ++ "/" ++ id := by
  have hpath : "/session/minecraft/profile/" = "/session/minecraft/profile" ++ "/" := by decide
  rw [address, hpath, ← String.append_assoc]
  rfl

/-- **The id of a profile cannot redirect the request for it.**  Whatever two ids are, both
addresses are URLs or neither is, and they are reached in the same way. -/
theorem request_sentAlike (s : Settings) (a : Account) (id other : String) :
    SentAlike (request s (identified a id)) (request s (identified a other)) := by
  apply request_of_readAlike
  rw [address_identified, address_identified]
  exact Url.parse_readAlike (prepareFront_profiles _) (by decide) id other

/-- The host of a profile on the file server `file://host`. -/
theorem host_of_file {s : Settings} {a : Account} {path : List Char}
    (h : Url.splitScheme (Url.prepare (address s a)) =
      some ("file", '/' :: '/' :: ("host".toList ++ '/' :: path))) :
    ∃ q, request s a = .ok q ∧ (Url.LeadsToDrive ('/' :: path) → q.url.host? = none) ∧
      (¬ Url.LeadsToDrive ('/' :: path) → q.url.host? = some (.name "host")) := by
  have hletters : ∀ c ∈ "host".toList, c.isLower = true := List.all_eq_true.1 (by decide)
  have hhost : Url.parseFileHost ("host".toList ++ '/' :: path) =
      .ok (.name "host", '/' :: path) := by
    rw [Url.parseFileHost_append (by decide), Url.parseFileHost_of_isLower hletters (by decide),
      if_neg (by decide), String.ofList_toList]
    rfl
  obtain ⟨u, hu, -, hdrop, hkeep⟩ := Url.afterFileSlashes_of_host hhost
  have hparse : Url.parse (address s a) = .ok u := by
    rw [Url.parse_eq_ok_iff]
    refine ⟨_, _, h, ?_⟩
    rw [Url.parseScheme_file (by decide), Url.parseFile_slashes (by decide) (by decide), hu]
  refine ⟨_, request_eq_ok hparse, fun hdrive => ?_, fun hdrive => ?_⟩
  · exact Url.host?_of_authority (hdrop (.inr hdrive))
  · exact Url.host?_of_authority (hkeep fun hor => hdrive (hor.resolve_left (by decide)))

/-- The profile of the id `1` under the file server `file://host` is on that host, and the one of
the id `../../../C:/x` is on none. -/
theorem request_host_astray :
    (∃ q, request { Settings.default with sessionServerUrl := "file://host" }
        (identified (.mojang "steve") "1") = .ok q ∧ q.url.host? = some (.name "host")) ∧
    (∃ q, request { Settings.default with sessionServerUrl := "file://host" }
        (identified (.mojang "steve") "../../../C:/x") = .ok q ∧ q.url.host? = none) := by
  constructor
  · obtain ⟨q, hq, -, hhost⟩ := @host_of_file
      { Settings.default with sessionServerUrl := "file://host" }
      (identified (.mojang "steve") "1") "session/minecraft/profile/1".toList (by decide)
    refine ⟨q, hq, hhost ?_⟩
    rw [Url.leadsToDrive_iff]
    decide
  · obtain ⟨q, hq, hhost, -⟩ := @host_of_file
      { Settings.default with sessionServerUrl := "file://host" }
      (identified (.mojang "steve") "../../../C:/x")
      "session/minecraft/profile/../../../C:/x".toList (by decide)
    exact ⟨q, hq, hhost ⟨['C', ':'], by decide, by decide⟩⟩

end Lookup

end SignIn
