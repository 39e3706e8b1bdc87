import SignIn.Proofs.Account.File
import SignIn.Proofs.Authentication.Round
import SignIn.Proofs.Json.Written
import SignIn.Proofs.Lookup.Classification
import SignIn.Proofs.Url.Joined

/-!
# Requests under settings from a file

Settings that are taken from a file name servers by addresses that are URLs.  A request goes to
such an address with a part appended, and the address is read again then.  It stays on the server
that the settings name exactly if the address takes parts: blanks at its end can come to stand
behind the host, and the part can come to stand in the place of a host that is missing.

## Main definitions

* `IsHexadecimal` — a text of hexadecimal digits.

## Main results

* `Settings.validate_of_loadFrom` — settings from a file are valid.
* `Settings.loadFrom_servers` — a file that names two servers is loaded.
* `Settings.loadFrom_requests` — the requests that are made under settings from a file.
-/

namespace SignIn

open SignIn.Json SignIn.Text

/-- Whether a text is made of hexadecimal digits. -/
def IsHexadecimal (s : String) : Prop := ∀ c ∈ s.toList, (Url.digitIn? 16 c).isSome = true

theorem IsHexadecimal.isAlphanum {s : String} (h : IsHexadecimal s) :
    ∀ c ∈ s.toList, c.isAlphanum = true := by
  intro c hc
  have hdigit := h c hc
  rw [Url.isAlphanum_iff]
  by_contra hrange
  simp only [not_or, not_and, not_le] at hrange
  simp only [Url.digitIn?] at hdigit
  rw [if_neg (by omega), if_neg (by omega), if_neg (by omega)] at hdigit
  cases hdigit

/-! ### Requests and their addresses -/

section Requests

variable {s : Settings} {a : Account} (p : Url → Prop)

/-- A request to the authentication server is made if its address is read. -/
theorem Authentication.exists_request_to_iff {auth : Authentication} {k : Authentication.Kind} :
    (∃ r, auth.request s a k = .ok r ∧ p r.url) ↔
      ∃ v, Url.parse (a.authServerUrl s ++ "/" ++ k.endpoint) = .ok v ∧ p v := by
  constructor
  · rintro ⟨r, hr, hp⟩
    obtain ⟨v, hv, rfl⟩ := request_eq_ok_iff.1 hr
    exact ⟨v, hv, hp⟩
  · rintro ⟨v, hv, hp⟩
    exact ⟨_, request_eq_ok_iff.2 ⟨v, hv, rfl⟩, hp⟩

/-- So is the request for a profile. -/
theorem Lookup.exists_request_to_iff :
    (∃ r, Lookup.request s a = .ok r ∧ p r.url) ↔
      ∃ v, Url.parse (Lookup.address s a) = .ok v ∧ p v := by
  cases hv : Url.parse (Lookup.address s a) with
  | error f => simp [request_eq_error hv]
  | ok v => simp [request_eq_ok hv, Request.withJsonHeaders, Request.withHeader, Request.download]

end Requests

namespace Settings

/-! ### Validity -/

theorem isUrl_iff {s : String} : isUrl s = true ↔ ∃ u, Url.parse s = .ok u := by
  unfold isUrl
  cases Url.parse s <;> simp [Except.toOption]

theorem validate_eq_ok_iff {s : Settings} :
    s.validate = .ok () ↔ (∃ u, Url.parse s.authServerUrl = .ok u) ∧
      (∃ u, Url.parse s.sessionServerUrl = .ok u) ∧ s.timeoutSeconds ≠ 0 := by
  rw [← isUrl_iff, ← isUrl_iff, validate]
  cases isUrl s.authServerUrl <;> cases isUrl s.sessionServerUrl <;> simp

/-- Settings from a text are those that it gives, if they are valid. -/
theorem parse_eq_ok_iff {text : String} {s : Settings} :
    parse text = .ok s ↔
      Json.read layout.record (Utf8.encode text) = .ok s ∧ s.validate = .ok () := by
  unfold parse
  simp only [bind_eq_ok_iff, mapError_eq_ok_iff]
  constructor
  · rintro ⟨s', hread, ⟨⟩, hvalid, hs⟩
    obtain rfl : s' = s := Except.ok.inj hs
    exact ⟨hread, hvalid⟩
  · rintro ⟨hread, hvalid⟩
    exact ⟨s, hread, (), hvalid, rfl⟩

/-- Settings from a file are valid. -/
theorem validate_of_loadFrom {disk : Disk} {path : String} {s : Settings}
    (h : loadFrom disk path = .ok s) : s.validate = .ok () := by
  obtain ⟨text, -, htext⟩ := bind_eq_ok_iff.1 h
  exact (parse_eq_ok_iff.1 htext).2

/-! ### Settings that name two servers -/

/-- Settings that name two servers and leave out the rest, as a JSON value. -/
def servers (auth session : String) : Value :=
  .object [("auth_server_url", .string auth), ("session_server_url", .string session)]

theorem read_servers (auth session : String) :
    Json.read layout.record (Utf8.encode (servers auth session).pretty) =
      .ok { default with authServerUrl := auth, sessionServerUrl := session } := by
  have hrestores : Restores layout.record 127 (servers auth session)
      { default with authServerUrl := auth, sessionServerUrl := session } :=
    Layout.restores_record (List.cons_ne_nil _ _) ⟨some auth, some session, none, none⟩
      (fun level => Layout.takes_written rfl rfl (restores_text auth)
        (Layout.takes_written rfl rfl (restores_text session) (.nil _))) rfl
  have hreads := hrestores 0 [] [] isGap_nil ends_nil
  have hbytes : Utf8.encode (servers auth session).pretty =
      Utf8.bytes ((servers auth session).prettyChars 0) := Utf8.encode_ofList _
  rw [List.nil_append, List.append_nil, ← hbytes] at hreads
  rw [Json.read, depthLimit, hreads]
  rfl

theorem loadFrom_of_read {disk : Disk} {path text : String}
    (h : disk.read path = .ok (Utf8.encode text)) : loadFrom disk path = parse text := by
  rw [loadFrom, Disk.readText_of_read h]
  rfl

/-- **A file that names two servers is loaded** if their addresses are URLs. -/
theorem loadFrom_servers {disk : Disk} {path auth session : String} {u v : Url}
    (hread : disk.read path = .ok (Utf8.encode (servers auth session).pretty))
    (hu : Url.parse auth = .ok u) (hv : Url.parse session = .ok v) :
    loadFrom disk path =
      .ok { default with authServerUrl := auth, sessionServerUrl := session } := by
  rw [loadFrom_of_read hread]
  have htimeout : default.timeoutSeconds ≠ 0 := by decide
  exact parse_eq_ok_iff.2 ⟨read_servers auth session,
    validate_eq_ok_iff.2 ⟨⟨u, hu⟩, ⟨v, hv⟩, htimeout⟩⟩

/-- A file may hold anything. -/
theorem exists_file (bytes : Bytes) : ∃ disk : Disk, disk.read "a/b" = .ok bytes := by
  obtain ⟨made, saved, -, hsaved⟩ := Account.isWritable_empty
  obtain ⟨disk, hdisk⟩ := Disk.write_of_write hsaved bytes
  exact ⟨disk, Disk.read_write hdisk⟩

/-- There are such files. -/
theorem exists_servers (auth session : String) :
    ∃ disk : Disk, disk.read "a/b" = .ok (Utf8.encode (servers auth session).pretty) :=
  exists_file _

/-! ### Requests under them -/

section Mojang

variable {s : Settings} {a : Account} (ha : a.service = .mojang)

include ha

theorem address_authentication (k : Authentication.Kind) :
    a.authServerUrl s ++ "/" ++ k.endpoint = Url.joined s.authServerUrl k.endpoint := by
  simp only [Account.authServerUrl, ha]
  rfl

theorem address_lookup : Lookup.address s a =
    Url.joined s.sessionServerUrl ("session/minecraft/profile/" ++ a.profile.id) := by
  have hparts : "/session/minecraft/profile/" = "/" ++ "session/minecraft/profile/" := by decide
  rw [Lookup.address, Account.sessionServerUrl, ha, hparts, Url.joined, ← String.append_assoc,
    ← String.append_assoc]
  rfl

end Mojang

theorem isEndpoint_authentication (k : Authentication.Kind) : Url.IsEndpoint k.endpoint.toList := by
  refine ⟨by cases k <;> exact List.all_eq_true.1 (by decide), k.endpoint.toList, [],
    (List.append_nil _).symm, ?_, by cases k <;> exact List.all_eq_true.1 (by decide), ?_, .inl rfl⟩
  all_goals cases k <;> decide

theorem isEndpoint_lookup {id : String} (h : IsHexadecimal id) :
    Url.IsEndpoint ("session/minecraft/profile/" ++ id).toList := by
  rw [String.toList_append]
  refine ⟨fun c hc => ?_, "session".toList, "/minecraft/profile/".toList ++ id.toList, ?_, ?_,
    List.all_eq_true.1 (by decide), ?_, .inr ⟨"minecraft/profile/".toList ++ id.toList, ?_⟩⟩
  · obtain hc | hc := List.mem_append.1 hc
    · exact List.all_eq_true.1 (by decide) c hc
    · simp [Url.isPlain, h.isAlphanum c hc]
  · rw [← List.append_assoc]
    rfl
  · decide
  · decide
  · rfl

/-- **Requests under settings from a file go to the servers of the settings** exactly if the
addresses take parts. -/
theorem loadFrom_requests {disk : Disk} {path : String} {s : Settings}
    (h : loadFrom disk path = .ok s) {a : Account} (ha : a.service = .mojang) :
    ∃ u v, Url.parse s.authServerUrl = .ok u ∧ Url.parse s.sessionServerUrl = .ok v ∧
      (∀ (auth : Authentication) (k : Authentication.Kind),
        (∃ r, auth.request s a k = .ok r ∧ r.url.IsOn u) ↔ Url.TakesParts s.authServerUrl) ∧
      (IsHexadecimal a.profile.id →
        ((∃ r, Lookup.request s a = .ok r ∧ r.url.IsOn v) ↔
          Url.TakesParts s.sessionServerUrl)) := by
  obtain ⟨⟨u, hu⟩, ⟨v, hv⟩, -⟩ := validate_eq_ok_iff.1 (validate_of_loadFrom h)
  refine ⟨u, v, hu, hv, fun auth k => ?_, fun hid => ?_⟩
  · rw [Authentication.exists_request_to_iff (·.IsOn u), address_authentication ha]
    exact Url.joined_isOn_iff hu (isEndpoint_authentication k)
  · rw [Lookup.exists_request_to_iff (·.IsOn v), address_lookup ha]
    exact Url.joined_isOn_iff hv (isEndpoint_lookup hid)

theorem isLower_a : ∀ c ∈ ['a'], c.isLower = true := List.forall_mem_singleton.2 rfl

theorem isLower_b : ∀ c ∈ ['b'], c.isLower = true := List.forall_mem_singleton.2 rfl

/-- Requests go to the servers `https://a` and `https://b` if a file names them. -/
theorem loadFrom_requests_words : ∃ disk s, loadFrom disk "a/b" = .ok s ∧
    (Account.mojang "steve").service = .mojang ∧
    ∃ u v, Url.parse s.authServerUrl = .ok u ∧ Url.parse s.sessionServerUrl = .ok v ∧
      (∀ (auth : Authentication) (k : Authentication.Kind),
        ∃ r, auth.request s (.mojang "steve") k = .ok r ∧ r.url.IsOn u) ∧
      (∃ r, Lookup.request s (.mojang "steve") = .ok r ∧ r.url.IsOn v) := by
  have hsa : Url.splitScheme (Url.prepare "https://a") =
      some ("https", '/' :: '/' :: (['a'] ++ [])) := by decide
  have hsb : Url.splitScheme (Url.prepare "https://b") =
      some ("https", '/' :: '/' :: (['b'] ++ [])) := by decide
  have hu := Url.parse_of_word (by decide) isLower_a (List.cons_ne_nil _ _) hsa Url.endsPath_nil
  have hv := Url.parse_of_word (by decide) isLower_b (List.cons_ne_nil _ _) hsb Url.endsPath_nil
  obtain ⟨disk, hread⟩ := exists_servers "https://a" "https://b"
  have hload := loadFrom_servers hread hu hv
  obtain ⟨u', v', hu', hv', hauth, hlookup⟩ :=
    loadFrom_requests hload (a := .mojang "steve") rfl
  exact ⟨disk, _, hload, rfl, u', v', hu', hv',
    fun auth k => (hauth auth k).2 (Url.takesParts_of_web hsa (by decide) (by decide)),
    (hlookup nofun).2 (Url.takesParts_of_web hsb (by decide) (by decide))⟩

/-- A file that names the server `https://a` with a space behind it is loaded, and no request of a
login or a refresh reaches that server. -/
theorem loadFrom_spaced : ∃ disk s u, loadFrom disk "a/b" = .ok s ∧
    Url.parse s.authServerUrl = .ok u ∧ ∀ (auth : Authentication) (k : Authentication.Kind),
      ¬ ∃ r, auth.request s (.mojang "steve") k = .ok r ∧ r.url.IsOn u := by
  have hsa : Url.splitScheme (Url.prepare "https://a ") =
      some ("https", '/' :: '/' :: (['a'] ++ [])) := by decide
  have hsb : Url.splitScheme (Url.prepare "https://b") =
      some ("https", '/' :: '/' :: (['b'] ++ [])) := by decide
  have hu := Url.parse_of_word (by decide) isLower_a (List.cons_ne_nil _ _) hsa Url.endsPath_nil
  have hv := Url.parse_of_word (by decide) isLower_b (List.cons_ne_nil _ _) hsb Url.endsPath_nil
  obtain ⟨disk, hread⟩ := exists_servers "https://a " "https://b"
  refine ⟨disk, _, _, loadFrom_servers hread hu hv, hu, fun auth k => ?_⟩
  rw [Authentication.exists_request_to_iff (·.IsOn _), address_authentication rfl]
  intro h
  have htakes := (Url.joined_isOn_iff hu (isEndpoint_authentication k)).1 h
  exact Url.not_takesParts_of_word (by decide) isLower_a (List.cons_ne_nil _ _) hsa (by decide)
    htakes

end Settings

end SignIn
