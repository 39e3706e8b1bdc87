import SignIn.Account.File
import SignIn.Proofs.Disk
import SignIn.Proofs.Json.Written
import SignIn.Proofs.Time.Instant

/-!
# A saved account is loaded again

The parts of an account are read back as they are written, from the inside out: the skin and the
cape, the profile, the access token, the service.  The level on which a part is written does not
matter, nor does the room that is left for containers as long as it is enough.

## Main results

* `Account.parse_toValue` — **an account is read back.**
* `Account.loadFrom_saveTo` — **an account that has been saved is loaded**, and saving it again
  writes the same bytes.
-/

namespace SignIn

open SignIn.Json SignIn.Text SignIn.Time

/-! ### The service -/

namespace Service

theorem reads_type (room : Nat) :
    Reads typeReader room (quoted "mojang") false ∧
      Reads typeReader room (quoted "authlib_injector") true := by
  refine ⟨fun gap rest hgap hrest => ?_, fun gap rest hgap hrest => ?_⟩
  · rw [typeReader, reads_textAs _ room "mojang" gap rest hgap hrest]
    rfl
  · rw [typeReader, reads_textAs _ room "authlib_injector" gap rest hgap hrest]
    rfl

variable {room : Nat} {after : Bytes} {ms : List (String × Bytes)}

/-- The type is taken, once. -/
theorem takes_type (hafter : IsGap after) {others : List (String × Value)} {draft : Draft}
    {word : Bytes} {t : Bool} (h : Reads typeReader room word t)
    (htakes : Takes (member room) after ⟨some t, others⟩ ms draft) :
    Takes (member room) after ⟨none, others⟩ (("type", word) :: ms) draft := by
  refine .cons (fun rest hrest => ?_) htakes
  rw [member, if_pos rfl]
  dsimp only
  rw [Option.isSome_none, if_neg Bool.false_ne_true, colon_cons]
  change (typeReader room (after ++ (word ++ rest)) >>= _) = _
  rw [h after rest hafter hrest]
  rfl

/-- Any other member is kept. -/
theorem takes_other (hafter : IsGap after) {draft draft' : Draft} {name : String}
    (hname : name ≠ "type") {bytes : Bytes} {v : Value} (h : Reads anyValue room bytes v)
    (htakes : Takes (member room) after { draft with others := draft.others ++ [(name, v)] } ms
      draft') :
    Takes (member room) after draft ((name, bytes) :: ms) draft' := by
  refine .cons (fun rest hrest => ?_) htakes
  rw [member, if_neg hname, colon_cons]
  change (anyValue room (after ++ (bytes ++ rest)) >>= _) = _
  rw [h after rest hafter hrest]
  rfl

/-- A service is read back if a walk takes its members to a draft that gives it. -/
theorem reads_object {before last : Bytes} (hbefore : IsGap before) (hlast : IsGap last)
    {draft : Draft} {s : Service} (htakes : Takes (member room) after ⟨none, []⟩ ms draft)
    (htype : draft.isThirdParty.isSome = true) (hmembers : ofMembers draft = .ok s) :
    Reads reader (room + 1) (objectBytes before after last ms) s := by
  intro gap rest hgap _
  obtain ⟨inner, hinner, hfold⟩ := settleObject_foldMembers hbefore hlast htakes rest
  have hform : objectForm room inner = .ok (draft, 0x7D :: rest) := by
    rw [objectForm, hfold]
    change (if draft.isThirdParty.isSome then _ else _) = _
    rw [if_pos htype]
    rfl
  rw [hinner, reader, skipBlanks_gap hgap (by decide)]
  dsimp only
  rw [if_neg (by decide), if_pos rfl]
  change (settleObject (objectForm room inner) >>= _) = _
  rw [hform, settleObject_ok]
  change conclude rest (ofMembers draft) = _
  rw [hmembers]
  rfl

end Service

/-- **A service is read back.** -/
theorem Service.restores_toValue (room : Nat) (s : Service) :
    Restores Service.reader (room + 1) s.toValue s := by
  intro level
  have hbefore := isGap_newLine (level + 1)
  have hlast := isGap_newLine level
  cases s with
  | mojang =>
    rw [toValue, bytes_pretty_object level (List.cons_ne_nil _ _)]
    exact reads_object hbefore hlast
      (takes_type isGap_blank (reads_type room).1 (.nil _)) rfl rfl
  | thirdParty apiUrl =>
    have hname : "api_url" ≠ "type" := by decide
    rw [toValue, bytes_pretty_object level (List.cons_ne_nil _ _)]
    exact reads_object hbefore hlast
      (takes_type isGap_blank (reads_type room).2
        (takes_other isGap_blank hname (reads_anyValue_string room apiUrl) (.nil _))) rfl rfl

/-! ### The tokens and the profile -/

theorem Validity.restores_word (room : Nat) (v : Validity) :
    Restores (choice "unknown" "certain" .unknown .certain) room (.string v.word) v := by
  intro level
  have h := reads_choice (by decide : "certain" ≠ "unknown") Validity.unknown Validity.certain room
  cases v with
  | unknown => exact h.1
  | certain => exact h.2

theorem AccessToken.restores_issuedAt (room : Nat) (t : Option Instant) :
    Restores (optional instantReader) room (.ofOption (t.map (·.text))) t := by
  cases t with
  | none => exact restores_null _
  | some t =>
    refine Restores.some_string fun level => reads_parsed _ ?_ room
    rw [Instant.read_text]
    rfl

/-- **An access token is read back.** -/
theorem AccessToken.restores_toValue (room : Nat) (t : AccessToken) :
    Restores AccessToken.layout.record (room + 1) t.toValue t := by
  refine Layout.restores_record (List.cons_ne_nil _ _)
    ⟨some t.token, some t.issuedAt, some t.validity⟩ (fun level => ?_) rfl
  exact Layout.takes_written rfl rfl (restores_text t.token)
    (Layout.takes_written rfl rfl (AccessToken.restores_issuedAt room t.issuedAt)
      (Layout.takes_written rfl rfl (t.validity.restores_word room) (.nil _)))

theorem Skin.restores_toValue (room : Nat) (s : Skin) :
    Restores Skin.layout.record (room + 1) s.toValue s := by
  refine Layout.restores_record (List.cons_ne_nil _ _)
    ⟨some s.url, some s.slim⟩ (fun level => ?_) rfl
  exact Layout.takes_written rfl rfl (restores_text s.url)
    (Layout.takes_written rfl rfl (restores_flag s.slim) (.nil _))

theorem Cape.restores_toValue (room : Nat) (c : Cape) :
    Restores Cape.layout.record (room + 1) c.toValue c := by
  refine Layout.restores_record (List.cons_ne_nil _ _) (some c.url) (fun level => ?_) rfl
  exact Layout.takes_written rfl rfl (restores_text c.url) (.nil _)

theorem Profile.restores_skin (room : Nat) (s : Option Skin) :
    Restores (optional Skin.layout.record) (room + 1) (valueOrNull (s.map (·.toValue))) s := by
  cases s with
  | none => exact restores_null _
  | some s => exact Restores.some_object (List.cons_ne_nil _ _) (s.restores_toValue room)

theorem Profile.restores_cape (room : Nat) (c : Option Cape) :
    Restores (optional Cape.layout.record) (room + 1) (valueOrNull (c.map (·.toValue))) c := by
  cases c with
  | none => exact restores_null _
  | some c => exact Restores.some_object (List.cons_ne_nil _ _) (c.restores_toValue room)

/-- **A profile is read back.** -/
theorem Profile.restores_toValue (room : Nat) (p : Profile) :
    Restores Profile.layout.record (room + 2) p.toValue p := by
  refine Layout.restores_record (List.cons_ne_nil _ _)
    ⟨some p.id, some p.name, some p.skin, some p.cape⟩ (fun level => ?_) rfl
  exact Layout.takes_written rfl rfl (restores_text p.id)
    (Layout.takes_written rfl rfl (restores_text p.name)
      (Layout.takes_written rfl rfl (Profile.restores_skin room p.skin)
        (Layout.takes_written rfl rfl (Profile.restores_cape room p.cape) (.nil _))))

namespace Account

theorem restores_clientToken (room : Nat) (t : Option String) :
    Restores (optional Json.text) room (.ofOption t) t := by
  cases t with
  | none => exact restores_null _
  | some t => exact Restores.some_string (restores_text t)

theorem restores_toValue (room : Nat) (a : Account) :
    Restores layout.record (room + 3) a.toValue a := by
  refine Layout.restores_record (List.cons_ne_nil _ _)
    ⟨some a.service, some a.username, some a.clientToken, some a.accessToken, some a.profile⟩
    (fun level => ?_) rfl
  exact Layout.takes_written rfl rfl (a.service.restores_toValue (room + 1))
    (Layout.takes_written rfl rfl (restores_text a.username)
      (Layout.takes_written rfl rfl (restores_clientToken (room + 2) a.clientToken)
        (Layout.takes_written rfl rfl (a.accessToken.restores_toValue (room + 1))
          (Layout.takes_written rfl rfl (a.profile.restores_toValue room) (.nil _)))))

/-- **An account is read back.** -/
theorem parse_toValue (a : Account) : parse a.toValue.pretty = .ok a := by
  have hreads := a.restores_toValue 124 0 [] [] isGap_nil ends_nil
  have hbytes : Utf8.encode a.toValue.pretty = Utf8.bytes (a.toValue.prettyChars 0) :=
    Utf8.encode_ofList _
  rw [List.nil_append, List.append_nil, ← hbytes] at hreads
  have hread : Json.read layout.record (Utf8.encode a.toValue.pretty) = .ok a := by
    rw [Json.read, depthLimit, hreads]
    rfl
  rw [parse, hread]
  rfl

/-! ### The file -/

/-- What saving does where the path is writable. -/
theorem saveTo_ok {a : Account} {disk made saved : Disk} {path : String}
    (hmade : disk.createDirectories (parentOf path) = .ok made)
    (hsaved : made.write path (Utf8.encode a.toValue.pretty) = .ok saved) :
    a.saveTo disk path = .ok saved := by
  rw [saveTo, hmade]
  change Error.at path (made.write path (Utf8.encode a.toValue.pretty)) = _
  rw [hsaved]
  rfl

theorem loadFrom_of_read {disk : Disk} {path text : String}
    (h : disk.read path = .ok (Utf8.encode text)) : loadFrom disk path = parse text := by
  rw [loadFrom, Disk.readText_of_read h]
  rfl

/-- Saving writes the same bytes wherever it can write, and could write there again. -/
theorem saveTo_of_isWritable (a : Account) {disk : Disk} {path : String}
    (h : disk.IsWritable path) :
    ∃ saved, a.saveTo disk path = .ok saved ∧
      saved.read path = .ok (Utf8.encode a.toValue.pretty) ∧ saved.IsWritable path := by
  obtain ⟨made, _, hmade, hempty⟩ := h
  obtain ⟨saved, hsaved⟩ := Disk.write_of_write hempty (Utf8.encode a.toValue.pretty)
  obtain ⟨again, hagain⟩ := Disk.write_write hsaved []
  exact ⟨saved, saveTo_ok hmade hsaved, Disk.read_write hsaved,
    saved, again, Disk.createDirectories_write hmade hsaved, hagain⟩

/-- **An account that has been saved is loaded**, the path stays writable, and what was loaded is
written with the same bytes there or anywhere else. -/
theorem loadFrom_saveTo (a : Account) {disk : Disk} {path : String} (h : disk.IsWritable path) :
    ∃ saved content, a.saveTo disk path = .ok saved ∧ saved.read path = .ok content ∧
      loadFrom saved path = .ok a ∧ saved.IsWritable path ∧
        ∀ disk' path', disk'.IsWritable path' →
          ∃ again, a.saveTo disk' path' = .ok again ∧ again.read path' = .ok content := by
  obtain ⟨saved, hsaved, hread, hwritable⟩ := a.saveTo_of_isWritable h
  have hload : loadFrom saved path = .ok a := (loadFrom_of_read hread).trans a.parse_toValue
  refine ⟨saved, Utf8.encode a.toValue.pretty, hsaved, hread, hload, hwritable, ?_⟩
  intro disk' path' h'
  obtain ⟨again, hagain, hread', -⟩ := a.saveTo_of_isWritable h'
  exact ⟨again, hagain, hread'⟩

/-- An account of a third party whose texts need escapes, and whose token was granted within a leap
second long ago. -/
def escaped : Account where
  service := .thirdParty "http://\"h\"/"
  username := "a\\b\n\u00e9"
  clientToken := none
  accessToken :=
    ⟨"t\x00", some ⟨⟨-12345, 6, 30, by decide⟩, 86399, 1500000000, by decide⟩, .certain⟩
  profile := ⟨"", "A", some ⟨"", true⟩, none⟩

theorem isWritable_empty : Disk.empty.IsWritable "a/b" := by
  have hparent : parentOf "a/b" = "a" := by decide +kernel
  have hdirectory : placeOf "a" = ["a"] := by
    rw [placeOf, String.splitOn, if_neg (by decide)]
    -- a letter, the end
    rw [String.splitOnAux, if_neg (by decide), if_neg (by decide)]
    rw [String.splitOnAux, if_pos (by decide)]
    decide
  have hplace : placeOf "a/b" = ["a", "b"] := by
    rw [placeOf, String.splitOn, if_neg (by decide)]
    -- a letter, the slash, a letter, the end
    rw [String.splitOnAux, if_neg (by decide), if_neg (by decide)]
    rw [String.splitOnAux, if_neg (by decide), if_pos (by decide)]
    dsimp only
    rw [if_pos (by decide)]
    rw [String.splitOnAux, if_neg (by decide), if_neg (by decide)]
    rw [String.splitOnAux, if_pos (by decide)]
    decide
  refine ⟨⟨[(["a"], .directory)]⟩, _, ?_, Disk.write_ok.2 ⟨?_, ?_, rfl⟩⟩
  · rw [hparent, Disk.createDirectories, hdirectory]
    rfl
  · rw [hplace]
    rfl
  · rw [hplace]
    exact nofun

/-- Such an account is loaded from a directory that saving has created. -/
theorem loadFrom_saveTo_escaped : Disk.empty.IsWritable "a/b" ∧
    ∃ saved content, escaped.saveTo .empty "a/b" = .ok saved ∧ saved.read "a/b" = .ok content ∧
      loadFrom saved "a/b" = .ok escaped ∧ saved.IsWritable "a/b" ∧
        ∀ disk' path', disk'.IsWritable path' →
          ∃ again, escaped.saveTo disk' path' = .ok again ∧ again.read path' = .ok content :=
  ⟨isWritable_empty, loadFrom_saveTo escaped isWritable_empty⟩

end Account

end SignIn
