import SignIn.Proofs.Discovery
import SignIn.Proofs.Text.Blank

/-!
# Whom a search for an API believes

Whoever is told where an API is sends passwords there, so it matters whose word is taken.  A search
asks for one page and goes nowhere else.  A reply that is no success is not believed, whatever its
headers say; a success is, and its first location header says where the API is.

Only the first one counts.  If its value cannot be read as text, the page itself is where the API
is, even if a second header could be read: a server that says two things is not asked which of them
it means.

## Main definitions

* `Discovery.IsAddressOf` — the address that a user means by a text.
* `Discovery.locations` — what the headers of a reply say.
* `Discovery.Leads` — where they lead.
* `Discovery.Judges` — what comes of a reply.

## Main results

* `Discovery.isAddressOf_iff` — the scheme is the only thing that is added.
* `Discovery.judges_locate` — the status counts first, and then the headers.
* `discover_trusts` — **only a success is believed.**
* `discover_unreadable` — a header that can be read, behind one that cannot.
-/

namespace SignIn

open SignIn.Text

namespace Discovery

/-! ### The address that is meant -/

/-- A text names a scheme. -/
def NamesScheme (text : String) : Prop := "://".toList <:+: text.toList

/-- The address that a user means by a text. -/
inductive IsAddressOf (text : String) : String → Prop
  /-- It is the text itself, without blanks around it. -/
  | itself (h : NamesScheme (trim text)) : IsAddressOf text (trim text)
  /-- It is on the secure web. -/
  | secure (h : ¬ NamesScheme (trim text)) : IsAddressOf text ("https://" ++ trim text)

/-- Three characters in a row name a scheme. -/
theorem namesScheme_iff {cs : List Char} : namesScheme cs = true ↔ "://".toList <:+: cs := by
  fun_induction namesScheme cs with
  | case1 cs => exact iff_of_true rfl ⟨[], cs, rfl⟩
  | case2 c cs hne ih =>
    rw [ih, List.infix_cons_iff, iff_or_self]
    rintro ⟨rest, hrest⟩
    obtain ⟨rfl, rfl⟩ := List.cons.inj hrest
    exact (hne rest rfl rfl).elim
  | case3 => exact iff_of_false Bool.false_ne_true fun h => nomatch List.eq_nil_of_infix_nil h

/-- Nothing but a scheme is added to a text. -/
theorem isAddressOf_iff {text address : String} :
    IsAddressOf text address ↔ address = withScheme text := by
  unfold withScheme
  by_cases h : NamesScheme (trim text)
  · rw [if_pos (namesScheme_iff.2 h)]
    constructor
    · rintro (_ | hnot)
      · rfl
      · exact absurd h hnot
    · rintro rfl
      exact .itself h
  · rw [if_neg (namesScheme_iff.not.2 h)]
    constructor
    · rintro (hnames | _)
      · exact absurd hnames h
      · rfl
    · rintro rfl
      exact .secure h

theorem toList_secure (s : String) :
    ("https://" ++ s).toList = ['h', 't', 't', 'p', 's', ':', '/', '/'] ++ s.toList :=
  String.toList_append

/-- A text without blanks around it has none behind a scheme. -/
theorem trim_secure {s : String} (h : trim s = s) : trim ("https://" ++ s) = "https://" ++ s := by
  obtain ⟨-, hlast⟩ := strip_eq_self_iff.1 (trim_eq_self_iff.1 h)
  rw [trim_eq_self_iff, toList_secure, strip_eq_self_iff]
  refine ⟨fun c hc => ?_, fun c hc => ?_⟩
  · obtain rfl := Option.some.inj hc
    decide
  · rw [List.getLast?_append] at hc
    obtain hs | ⟨-, hslash⟩ := Option.or_eq_some_iff.1 hc
    · exact hlast c hs
    · obtain rfl := Option.some.inj hslash
      decide

/-- The scheme of the secure web may be left out. -/
theorem withScheme_secure {s : String} (htrim : trim s = s) (hs : ¬ NamesScheme s) :
    withScheme ("https://" ++ s) = withScheme s := by
  have hbare : ¬ namesScheme s.toList = true := namesScheme_iff.not.2 hs
  have hsecure : namesScheme ("https://" ++ s).toList = true :=
    namesScheme_iff.2 ⟨"https".toList, s.toList, (toList_secure s).symm⟩
  unfold withScheme
  rw [trim_secure htrim, htrim, if_pos hsecure, if_neg hbare]

/-! ### What a reply says -/

/-- What the headers of a reply say about where the API is, in order. -/
def locations (hs : Headers) : List String :=
  (hs.filter (sameName ·.1 locationHeader)).map (·.2)

/-- Whether a value can be read as text. -/
def isReadable (value : String) : Bool := value.toList.all isHeaderText

/-- Where the headers of a page lead. -/
inductive Leads (page : Url) (hs : Headers) : Except Error Url → Prop
  /-- No header says where the API is: it is at the page itself. -/
  | silent (h : locations hs = []) : Leads page hs (.ok page)
  /-- The first one cannot be read: the API is at the page itself. -/
  | unreadable {value : String} (first : (locations hs).head? = some value)
    (h : isReadable value = false) : Leads page hs (.ok page)
  /-- The first one is a reference from the page. -/
  | resolved {value : String} {u : Url} (first : (locations hs).head? = some value)
    (h : isReadable value = true) (hu : page.join value = .ok u) : Leads page hs (.ok u)
  /-- The first one is a reference to nowhere. -/
  | unresolvable {value : String} {fault : Url.Fault} (first : (locations hs).head? = some value)
    (h : isReadable value = true) (hfault : page.join value = .error fault) :
    Leads page hs (.error (.invalidUrl fault))

/-- What comes of a reply. -/
structure Judges (page : Url) (p : Reply) (r : Except Error Url) : Prop where
  /-- Without a status, the server was not reached. -/
  unanswered : p.status = none → r = .error (.unreachable p.failureMessage)
  /-- A status that is no success is an error, whatever the headers are. -/
  refused : ∀ url status headers body, p = .ofResponse url status headers body →
    ¬ (200 ≤ status ∧ status ≤ 299) → r = .error (.discovery p.failureMessage)
  /-- After a success, the headers lead somewhere. -/
  believed : ∀ url status headers body, p = .ofResponse url status headers body →
    200 ≤ status ∧ status ≤ 299 → Leads page headers r
  /-- Nothing but a success leads to a URL. -/
  success : ∀ u, r = .ok u →
    (p.status = none ∨ ∃ url status headers body, p = .ofResponse url status headers body) →
    ∃ status, p.status = some status ∧ 200 ≤ status ∧ status ≤ 299

/-- The first location counts, if it can be read. -/
theorem header?_locationHeader (p : Reply) :
    p.header? locationHeader = (locations p.headers).head?.filter isReadable := by
  rw [locations, List.head?_map, List.head?_filter]
  rfl

theorem isSuccess_ofResponse_iff {url : Url} {status : Nat} {headers : Headers} {body : Bytes} :
    (Reply.ofResponse url status headers body).isSuccess = true ↔ 200 ≤ status ∧ status ≤ 299 := by
  rw [← FailureKind.ofStatus?_eq_none_iff, Reply.isSuccess, Reply.ofResponse, Option.isNone_map,
    Option.isNone_iff_eq_none]

/-- A value that can be read is a reference from the page. -/
theorem Leads.join {page : Url} {hs : Headers} {value : String}
    (first : (locations hs).head? = some value) (h : isReadable value = true) :
    Leads page hs ((page.join value).mapError .invalidUrl) := by
  cases hjoin : page.join value with
  | ok u => exact .resolved first h hjoin
  | error fault => exact .unresolvable first h hjoin

/-- It is one wherever the headers lead. -/
theorem Leads.eq_join {page : Url} {hs : Headers} {value : String} {r : Except Error Url}
    (hleads : Leads page hs r) (first : (locations hs).head? = some value)
    (h : isReadable value = true) : r = (page.join value).mapError .invalidUrl := by
  cases hleads with
  | silent hnone => cases first.symm.trans (List.head?_eq_none_iff.2 hnone)
  | unreadable first' h' =>
    obtain rfl := Option.some.inj (first.symm.trans first')
    cases h.symm.trans h'
  | resolved first' _ hu =>
    obtain rfl := Option.some.inj (first.symm.trans first')
    rw [hu]
    rfl
  | unresolvable first' _ hfault =>
    obtain rfl := Option.some.inj (first.symm.trans first')
    rw [hfault]
    rfl

/-- Headers whose first value cannot be read lead nowhere else. -/
theorem Leads.eq_page {page : Url} {hs : Headers} {value : String} {r : Except Error Url}
    (hleads : Leads page hs r) (first : (locations hs).head? = some value)
    (h : isReadable value = false) : r = .ok page := by
  cases hleads with
  | silent | unreadable => rfl
  | resolved first' h' | unresolvable first' h' =>
    obtain rfl := Option.some.inj (first.symm.trans first')
    cases h.symm.trans h'

/-- A success leads where its headers lead. -/
theorem leads_locate {page : Url} {p : Reply} (hstatus : p.status.isNone = false)
    (hsuccess : p.isSuccess = true) : Leads page p.headers (locate page p) := by
  unfold locate
  rw [hstatus, hsuccess, if_neg Bool.false_ne_true, if_pos rfl, header?_locationHeader]
  cases hfirst : (locations p.headers).head? with
  | none => exact .silent (List.head?_eq_none_iff.1 hfirst)
  | some value =>
    cases hread : isReadable value with
    | false =>
      rw [Option.filter_some_neg hread]
      exact .unreadable hfirst hread
    | true =>
      rw [Option.filter_some_pos hread]
      exact .join hfirst hread

theorem locate_of_unanswered {page : Url} {p : Reply} (h : p.status = none) :
    locate page p = .error (.unreachable p.failureMessage) := by
  rw [locate, h, Option.isNone_none, if_pos rfl]

theorem locate_of_refused {page url : Url} {status : Nat} (headers : Headers) (body : Bytes)
    (h : ¬ (200 ≤ status ∧ status ≤ 299)) :
    let p := Reply.ofResponse url status headers body
    locate page p = .error (.discovery p.failureMessage) := by
  intro p
  rw [locate, Bool.eq_false_iff.2 (isSuccess_ofResponse_iff.not.2 h)]
  rfl

/-- **Every reply is judged** by its status, and a success by its headers. -/
theorem judges_locate (page : Url) (p : Reply) : Judges page p (locate page p) where
  unanswered := locate_of_unanswered
  refused := by
    rintro url status headers body rfl hstatus
    exact locate_of_refused headers body hstatus
  believed := by
    rintro url status headers body rfl hstatus
    exact leads_locate rfl (isSuccess_ofResponse_iff.2 hstatus)
  success := by
    rintro u hu (hnone | ⟨url, status, headers, body, rfl⟩)
    · cases hu.symm.trans (locate_of_unanswered hnone)
    · refine ⟨status, rfl, ?_⟩
      by_contra hstatus
      cases hu.symm.trans (locate_of_refused headers body hstatus)

end Discovery

/-! ### The search -/

open Discovery

/-- **Only a success is believed.**  A text that means no URL makes a search fail before it asks
anything; any other makes it ask for one page, once, and its reply is judged by its status and then
by its first location header.  Whether a text starts with the scheme of the secure web makes no
difference. -/
theorem discover_trusts (server : Server) :
    (∀ text, ∃ address, IsAddressOf text address ∧
      (∀ fault, Url.parse address = .error fault →
        discover server text = (.error (.invalidUrl fault), [])) ∧
      ∀ page, Url.parse address = .ok page →
        (discover server text).2 = [.download page] ∧
          Judges page (reply server (.download page)) (discover server text).1) ∧
    ∀ s, trim s = s → ¬ NamesScheme s → discover server s = discover server ("https://" ++ s) := by
  refine ⟨fun text => ⟨withScheme text, isAddressOf_iff.2 rfl, fun fault hfault => ?_,
    fun page hpage => ?_⟩, fun s htrim hs => ?_⟩
  · unfold discover
    rw [hfault]
  · rw [discover_of_parse hpage]
    exact ⟨rfl, judges_locate page _⟩
  · unfold discover
    rw [withScheme_secure htrim hs]

/-! ### Pages of the server `a` -/

/-- A server whose pages have this status and these headers. -/
def heading (status : Nat) (hs : Headers) : Server := fun _ q =>
  .reply (.ofResponse q.url status hs [])

/-- The page that is asked for. -/
def pageOfA : Url := .ofWord "https" ['a'] []

/-- Where its API is. -/
def apiOfA : Url := { pageOfA with path := .rooted ["api"] }

theorem parse_pageOfA : Url.parse "https://a" = .ok pageOfA :=
  Url.parse_of_word (by decide) Settings.isLower_a (List.cons_ne_nil _ _) (by decide)
    Url.endsPath_nil

theorem join_api : pageOfA.join "/api" = .ok apiOfA := by decide +kernel

/-- A page with a header is believed if it is a success, and not if it is none. -/
theorem discover_trusts_heading :
    let hs := [("X-Authlib-Injector-API-Location", "/api")]
    discover (heading 200 hs) " a " = (.ok apiOfA, [.download pageOfA]) ∧
      (discover (heading 404 hs) " a ").1 =
        .error (.discovery (Reply.ofResponse pageOfA 404 hs []).failureMessage) ∧
      discover (heading 200 hs) "a" = discover (heading 200 hs) "https://a" := by
  intro hs
  have hbare : ¬ NamesScheme "a" := namesScheme_iff.not.1 (by decide)
  have hfirst : (locations hs).head? = some "/api" := by decide
  have hmeant {address : String} (h : IsAddressOf " a " address) : address = "https://a" :=
    (isAddressOf_iff.1 h).trans (by decide)
  obtain ⟨hasks, hsecure⟩ := discover_trusts (heading 200 hs)
  obtain ⟨address, haddress, -, hfound⟩ := hasks " a "
  obtain rfl := hmeant haddress
  obtain ⟨hrequests, hjudged⟩ := hfound _ parse_pageOfA
  obtain ⟨address, haddress, -, hrefused⟩ := (discover_trusts (heading 404 hs)).1 " a "
  obtain rfl := hmeant haddress
  have hresult := (hjudged.believed _ _ _ _ rfl (by decide)).eq_join hfirst (by decide)
  rw [join_api] at hresult
  exact ⟨Prod.ext hresult hrequests,
    (hrefused _ parse_pageOfA).2.refused _ _ _ _ rfl (by decide), hsecure "a" (by decide) hbare⟩

/-- **Only the first header counts.**  A second one could be read, and leads elsewhere; but the
first one cannot, and so the API is looked for at the page itself. -/
theorem discover_unreadable :
    let hs := [(locationHeader, "/é"), (locationHeader, "/api")]
    (locations hs).find? isReadable = some "/api" ∧ pageOfA.join "/api" = .ok apiOfA ∧
      discover (heading 200 hs) "a" = (.ok pageOfA, [.download pageOfA]) ∧ apiOfA ≠ pageOfA := by
  intro hs
  have hpage : Url.parse (withScheme "a") = .ok pageOfA := parse_pageOfA
  have hfirst : (locations hs).head? = some "/é" := by decide
  have hleads := (judges_locate pageOfA (.ofResponse pageOfA 200 hs [])).believed _ _ _ _ rfl
    (by decide)
  refine ⟨by decide, join_api, ?_, by decide⟩
  rw [discover_of_parse hpage]
  exact Prod.ext (hleads.eq_page hfirst (by decide)) rfl

end SignIn
