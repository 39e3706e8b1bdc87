import SignIn.Proofs.Account.File
import SignIn.Proofs.Authentication.Confirmation
import SignIn.Proofs.Except
import SignIn.Proofs.Routine.Fold
import SignIn.Proofs.Routine.Pinning

/-!
# Where an empty token comes from

The token of an installation is pinned in several ways: it is given, made, taken from a server or
loaded with the account from a file.  All of them but the last one see to it that an empty token
does not count.  So an account has an empty token only if some file brings one, and then it keeps
it, and no reply is accepted any more.

## Main definitions

* `Deed`, `Deed.act` — what may be done to an account and to the files, which anyone may edit.
* `Brings` — a file whose account has an empty token.
* `IsClean` — neither the account nor any file has one.

## Main results

* `Deed.act_isClean` — a deed makes no empty token, unless it edits a file that has one.
* `emptyToken_of_file` — only a file brings an empty token, and it stays.
* `clientToken_empty_of_load` — a file does bring one.
-/

namespace SignIn

open SignIn.Text

/-! ### Deeds -/

/-- What may be done to an account, and to the files beside it. -/
inductive Deed where
  /-- A token that was issued before is pinned. -/
  | pin (token : String)
  /-- A token is made, unless one is pinned. -/
  | ensure (random : BitVec 128)
  /-- A ready-made routine runs. -/
  | run (visit : Visit)
  /-- The account is saved to a path. -/
  | save (path : String)
  /-- The account is loaded from a path, if it loads. -/
  | load (path : String)
  /-- Someone writes a file. -/
  | edit (path : String) (content : Bytes)

/-- What a deed does to the files and the account. -/
def Deed.act (disk : Disk) (a : Account) : Deed → Disk × Account
  | .pin token => (disk, a.withClientToken token)
  | .ensure random => (disk, a.ensureClientToken (freshToken random))
  | .run visit => (disk, (visit.result a).account)
  | .save path => (((a.saveTo disk path).toOption).getD disk, a)
  | .load path => (disk, ((Account.loadFrom disk path).toOption).getD a)
  | .edit path content => (((disk.write path content).toOption).getD disk, a)

/-- What deeds come to, one after the other. -/
def Deed.actAll (disk : Disk) (a : Account) : List Deed → Disk × Account
  | [] => (disk, a)
  | d :: deeds => actAll (d.act disk a).1 (d.act disk a).2 deeds

/-- The content of a file is an account whose token is empty. -/
def Brings (content : Bytes) : Prop :=
  ∃ text a, Utf8.decode? content = some text ∧ Account.parse text = .ok a ∧
    a.clientToken = some ""

/-- Neither the account nor any file has an empty token. -/
structure IsClean (disk : Disk) (a : Account) : Prop where
  /-- The account has none. -/
  clientToken : a.clientToken ≠ some ""
  /-- No file brings one. -/
  files : ∀ place content, disk.node? place = some (.file content) → ¬ Brings content

/-! ### The account -/

namespace Account

theorem clientToken_withClientToken_ne {a : Account} (h : a.clientToken ≠ some "")
    (token : String) : (a.withClientToken token).clientToken ≠ some "" := by
  unfold withClientToken
  split
  · exact h
  · rename_i ht
    simpa using ht

theorem clientToken_ensureClientToken_ne {a : Account} (h : a.clientToken ≠ some "")
    {token : String} (ht : token ≠ "") : (a.ensureClientToken token).clientToken ≠ some "" := by
  unfold ensureClientToken
  cases ha : a.clientToken with
  | none => simpa using ht
  | some t => simpa [ha] using h

/-- What a file brings is what it was saved with. -/
theorem not_brings_saved {a : Account} (h : a.clientToken ≠ some "") :
    ¬ Brings (Utf8.encode a.toValue.pretty) := by
  rintro ⟨text, a', htext, hparse, ha'⟩
  obtain rfl : a.toValue.pretty = text := by simpa [Utf8.decode?_encode] using htext
  obtain rfl : a = a' := Except.ok.inj (a.parse_toValue.symm.trans hparse)
  exact h ha'

end Account

/-- **A run makes no empty token**, whatever the servers answer. -/
theorem Visit.clientToken_result_ne (v : Visit) {a : Account} (h : a.clientToken ≠ some "") :
    (v.result a).account.clientToken ≠ some "" := by
  cases ha : a.clientToken with
  | some t =>
    rw [(v.keeps ha).clientToken, ← ha]
    exact h
  | none =>
    have hu := unpinned_of_none ha [v]
    cases hu with
    | refused _ hacc => rw [hacc, ha]; exact nofun
    | login _ hall =>
      rw [(hall _ (List.mem_cons_self ..)).clientToken]
      simpa using freshToken_ne_empty v.world.random
    | renewal _ _ accepted now =>
      rw [now.clientToken]
      simpa using accepted.clientToken_ne_empty

/-! ### The files -/

namespace Disk

/-- Creating directories makes no file. -/
theorem file_of_createFrom {disk made : Disk} {start : Place} {names : List String}
    (h : disk.createFrom start names = .ok made) {place : Place} {content : Bytes}
    (hplace : made.node? place = some (.file content)) :
    disk.node? place = some (.file content) := by
  induction names generalizing disk start with
  | nil =>
    obtain rfl : disk = made := Except.ok.inj h
    exact hplace
  | cons name names ih =>
    rw [createFrom] at h
    split at h
    · have hput := ih h
      by_cases hne : place = start ++ [name]
      · subst hne
        rw [node?_put_self disk (List.concat_ne_nil name start)] at hput
        cases hput
      · rwa [node?_put_of_ne disk hne] at hput
    · exact ih h
    · cases h

/-- A file after writing one is that one, or was there before. -/
theorem file_of_write {disk saved : Disk} {path : String} {written content : Bytes}
    (h : disk.write path written = .ok saved) {place : Place}
    (hplace : saved.node? place = some (.file content)) :
    content = written ∨ disk.node? place = some (.file content) := by
  obtain ⟨-, hroot, rfl⟩ := write_ok.1 h
  by_cases hne : place = placeOf path
  · subst hne
    rw [node?_put_self disk (placeOf_ne_nil hroot)] at hplace
    cases hplace
    exact .inl rfl
  · rw [node?_put_of_ne disk hne] at hplace
    exact .inr hplace

end Disk

/-- Naming the path changes no result. -/
theorem Error.at_eq_ok_iff {α : Type} {path : String} {r : Except Disk.Fault α} {x : α} :
    Error.at path r = .ok x ↔ r = .ok x := by
  cases r <;> simp [Error.at]

namespace Account

/-- Saving an account leaves its file and the files that were there. -/
theorem file_of_saveTo {a : Account} {disk saved : Disk} {path : String}
    (h : a.saveTo disk path = .ok saved) {place : Place} {content : Bytes}
    (hplace : saved.node? place = some (.file content)) :
    content = Utf8.encode a.toValue.pretty ∨ disk.node? place = some (.file content) := by
  obtain ⟨made, hmade, hwrite⟩ := bind_eq_ok_iff.1 h
  exact (Disk.file_of_write (Error.at_eq_ok_iff.1 hwrite) hplace).imp_right
    (Disk.file_of_createFrom (Error.at_eq_ok_iff.1 hmade))

/-- What is loaded is what some file holds. -/
theorem file_of_loadFrom {a : Account} {disk : Disk} {path : String}
    (h : loadFrom disk path = .ok a) :
    ∃ content text, disk.node? (placeOf path) = some (.file content) ∧
      Utf8.decode? content = some text ∧ parse text = .ok a := by
  obtain ⟨text, hread, hparse⟩ := bind_eq_ok_iff.1 h
  obtain ⟨content, hcontent, htext⟩ := bind_eq_ok_iff.1 (Error.at_eq_ok_iff.1 hread)
  obtain ⟨-, -, hnode⟩ := bind_eq_ok_iff.1 hcontent
  refine ⟨content, text, ?_, ?_, hparse⟩
  · split at hnode
    · cases hnode
    · cases hnode
    · rename_i content' hplace
      obtain rfl := Except.ok.inj hnode
      exact hplace
  · split at htext
    · rename_i text' hdecode
      obtain rfl := Except.ok.inj htext
      exact hdecode
    · cases htext

end Account

/-! ### Deeds keep an account clean -/

variable {disk : Disk} {a : Account}

/-- **A deed makes no empty token**, unless it edits a file that brings one. -/
theorem Deed.act_isClean (d : Deed) (h : IsClean disk a)
    (hd : ∀ path content, d = .edit path content → ¬ Brings content) :
    IsClean (d.act disk a).1 (d.act disk a).2 := by
  cases d with
  | pin token => exact ⟨Account.clientToken_withClientToken_ne h.clientToken token, h.files⟩
  | ensure random =>
    exact ⟨Account.clientToken_ensureClientToken_ne h.clientToken (freshToken_ne_empty random),
      h.files⟩
  | run visit => exact ⟨visit.clientToken_result_ne h.clientToken, h.files⟩
  | save path =>
    refine ⟨h.clientToken, fun place content hplace => ?_⟩
    rw [act] at hplace
    cases hsave : a.saveTo disk path with
    | error e =>
      rw [hsave] at hplace
      exact h.files place content hplace
    | ok saved =>
      rw [hsave] at hplace
      obtain rfl | hbefore := Account.file_of_saveTo hsave hplace
      · exact Account.not_brings_saved h.clientToken
      · exact h.files place content hbefore
  | load path =>
    refine ⟨?_, h.files⟩
    rw [act]
    cases hload : Account.loadFrom disk path with
    | error e => exact h.clientToken
    | ok a' =>
      obtain ⟨content, text, hplace, htext, hparse⟩ := Account.file_of_loadFrom hload
      exact fun ha' => h.files _ content hplace ⟨text, a', htext, hparse, ha'⟩
  | edit path written =>
    refine ⟨h.clientToken, fun place content hplace => ?_⟩
    rw [act] at hplace
    cases hwrite : disk.write path written with
    | error e =>
      rw [hwrite] at hplace
      exact h.files place content hplace
    | ok saved =>
      rw [hwrite] at hplace
      obtain rfl | hbefore := Disk.file_of_write hwrite hplace
      · exact hd path content rfl
      · exact h.files place content hbefore

/-- **Deeds make no empty token**, unless one of them edits a file that brings one. -/
theorem Deed.actAll_isClean (deeds : List Deed) (h : IsClean disk a)
    (hdeeds : ∀ path content, .edit path content ∈ deeds → ¬ Brings content) :
    IsClean (actAll disk a deeds).1 (actAll disk a deeds).2 := by
  induction deeds generalizing disk a with
  | nil => exact h
  | cons d deeds ih =>
    refine ih (d.act_isClean h fun path content hd => hdeeds path content ?_)
      fun path content hd => hdeeds path content (List.mem_cons_of_mem d hd)
    rw [hd]
    exact List.mem_cons_self ..

/-! ### An empty token -/

/-- No reply is accepted for an account with an empty token. -/
theorem Accepted.clientToken_ne {w : World} {x : Authentication.Standing} {p : Reply} {g : Grant}
    {e : ProfileEntry} {b : Bool} (h : Accepted w x p g e b) :
    x.account.clientToken ≠ some "" :=
  fun hx => h.clientToken_ne_empty (h.pinned "" hx)

/-- With an empty token, no round does well. -/
theorem Authentication.Exchange.ne_working {auth : Authentication} {w : World} {log : Log}
    {r : Result} (h : Exchange auth w a log r) (ha : a.clientToken = some "") :
    r.outcome.status ≠ .working := by
  have ha' := clientToken_accountFor w ha auth.firstKind
  cases h with
  | single h =>
    intro ho
    obtain ⟨q, p, g, e, -, hacc, -⟩ := h.of_working ho
    exact hacc.clientToken_ne ha'
  | double ha₁ _ _ _ accepted =>
    exact (accepted.clientToken_ne (ha₁ ▸ ha')).elim

/-- **An account with an empty token never gets anywhere**, and keeps the token. -/
theorem Visit.result_of_emptyToken (v : Visit) (ha : a.clientToken = some "") :
    (v.result a).outcome.status ≠ .succeeded ∧ (v.result a).account.clientToken = some "" := by
  refine ⟨?_, (v.keeps ha).clientToken⟩
  cases hi : v.interrupted with
  | some route =>
    rw [result, routine, hi]
    cases v.flow <;> cases route <;> exact fun h => by cases h
  | none =>
    obtain ⟨r, hcont, hr⟩ := result_of_not_interrupted hi a
    have hno := (v.flow.authentication.act_spec v.world a []).ne_working ha
    rw [hr]
    cases hcont with
    | stopped => exact nofun
    | failed => exact Authentication.act_ne_succeeded _ _ _ _
    | next _ ho => exact (hno ho).elim

/-- **Only a file brings an empty token.**  Whatever is done to an account that is fresh, it has no
empty token afterwards, unless there was a file with one, or someone wrote such a file.  If it has
one all the same, no run gets anywhere any more. -/
theorem emptyToken_of_file (service : Service) (username : String) (disk : Disk)
    (deeds : List Deed) :
    let a := (Deed.actAll disk (.fresh service username) deeds).2
    (a.clientToken ≠ some "" ∨
      (∃ place content, disk.node? place = some (.file content) ∧ Brings content) ∨
      ∃ path content, .edit path content ∈ deeds ∧ Brings content) ∧
    (a.clientToken = some "" → ∀ v : Visit, (v.result a).outcome.status ≠ .succeeded ∧
      (v.result a).account.clientToken = some "") := by
  refine ⟨?_, fun ha v => v.result_of_emptyToken ha⟩
  by_cases hfile : ∃ place content, disk.node? place = some (.file content) ∧ Brings content
  · exact .inr (.inl hfile)
  · by_cases hedit : ∃ path content, .edit path content ∈ deeds ∧ Brings content
    · exact .inr (.inr hedit)
    · push Not at hfile hedit
      have hfresh : (Account.fresh service username).clientToken ≠ some "" := by
        simp [Account.fresh]
      exact .inl (Deed.actAll_isClean deeds ⟨hfresh, hfile⟩ hedit).clientToken

/-- An account that was given an empty token by hand. -/
def Account.blank : Account := { Account.mojang "steve" with clientToken := some "" }

/-- **A file does bring an empty token.**  A fresh account takes the place of one with an empty
token if it is loaded from a file that has one. -/
theorem clientToken_empty_of_load : ∃ disk,
    (Deed.actAll disk (.mojang "steve") [.load "a/b"]).2.clientToken = some "" := by
  obtain ⟨saved, -, hread, -⟩ := Account.blank.saveTo_of_isWritable Account.isWritable_empty
  have hload : Account.loadFrom saved "a/b" = .ok .blank :=
    (Account.loadFrom_of_read hread).trans Account.blank.parse_toValue
  refine ⟨saved, ?_⟩
  rw [Deed.actAll, Deed.act, hload]
  rfl

end SignIn
