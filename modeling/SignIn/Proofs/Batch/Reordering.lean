import SignIn.Proofs.Batch.Retry

/-!
# Requests in another order

The requests of a batch share its activity and its policy, but no request has a say in what becomes
of another one.  When each URL has its own queue of replies and nobody is asked, a request is
finished with the reply that its queue and the limit decide, wherever it stands among the others.
So a batch whose requests are put in another order comes to the same.

## Main definitions

* `sentTo` — the requests that were sent to a URL.
* `ofQueues`, `Queued` — replies that wait in queues, one for each URL.
* `Settles` — what a batch comes to.
* `RunsTo` — the end of a run, in any order or in turns.
* `Reordered` — two batches with the same requests in another order come to the same.

## Main results

* `Runs.settles`, `run_settles` — every run comes to what the queues decide.
* `run_reordered` — the order of the requests makes no difference.
-/

namespace SignIn

namespace Batch

/-! ### Queues of replies -/

/-- The requests that were sent to a URL, in order. -/
def sentTo (u : Url) (log : List Event) : List Request := (sentIn log).filter (·.url == u)

@[simp] theorem sentTo_append (u : Url) (log more : List Event) :
    sentTo u (log ++ more) = sentTo u log ++ sentTo u more := by simp [sentTo]

/-- A server with a queue of replies for each URL. -/
def ofQueues (queue : Url → Nat → Reply) : Server :=
  fun sent r => .reply (queue r.url (sent.countP (·.url == r.url)))

/-- The replies to each request arrive as they wait in the queue of its URL. -/
def Queued (queue : Url → Nat → Reply) (requests : List Request) (moves : List Move) : Prop :=
  ∀ (i : Nat) (r : Request), requests[i]? = some r →
    Begins (queue r.url) (repliesIn (actsOf i moves))

/-- What a batch comes to when its replies wait in queues and nobody is asked. -/
structure Settles (queue : Url → Nat → Reply) (b : Batch) (report : Report) (log : List Event) :
    Prop where
  /-- Each request has the reply that its queue decides. -/
  replies_eq : report.replies = b.requests.map fun r => settled b.policy.limit (queue r.url)
  /-- It is sent once for each reply that it takes from there. -/
  sentTo_eq {r : Request} (hr : r ∈ b.requests) :
    sentTo r.url log = List.replicate (tries b.policy.limit (queue r.url)).length r
  /-- Nothing is sent to any other URL. -/
  sentTo_eq_nil {u : Url} (hu : ∀ r ∈ b.requests, r.url ≠ u) : sentTo u log = []
  /-- The fault is the first reply that is a failure. -/
  fault_eq : report.fault = fault? report.replies
  /-- The batch fails with a fault, and succeeds without one. -/
  phase_eq : report.phase = if report.fault.isSome then .failed else .succeeded

/-! ### Runs in any order -/

/-- The queue of a request that nobody is asked about decides what it is finished with, and how
often it is sent. -/
theorem Retries.settled_of_finished {policy : RetryPolicy} {acts : List Act} {p : Reply}
    {ρ : Nat → Reply} (h : Retries policy acts (.finished p)) (hasks : policy.asks = false)
    (hbegins : Begins ρ (repliesIn acts)) :
    p = settled policy.limit ρ ∧ sendsIn acts = (tries policy.limit ρ).length := by
  obtain ⟨hsends, hstands⟩ := h
  cases hstands with
  | @finished yes _ hanswers hyes htried hlen =>
    obtain rfl : yes = 0 := eq_zero_of_not_asks hyes hasks
    rw [Nat.zero_add, Nat.one_mul] at htried
    obtain ⟨hps, hp⟩ :=
      htried.unique (tried_tries policy.limit ρ) hbegins (begins_tries policy.limit ρ)
    refine ⟨hp, ?_⟩
    rw [hsends, hps]
    rfl

/-- What one move sends. -/
def Move.sends? (requests : List Request) : Move → Option Request
  | .act i .send => requests[i]?
  | _ => none

/-- What a run sends is told by its moves. -/
theorem sentIn_of_scene? {b : Batch} (hlog : b.log = []) {canAsk : Bool} {moves : List Move}
    {s : Scene} (h : b.scene? canAsk moves = some s) :
    sentIn s.log = moves.filterMap (Move.sends? b.requests) := by
  induction h using scene?_induction with
  | start =>
    rw [scene, hlog]
    rfl
  | @move moves m s₁ s' _ hm ih =>
    rw [List.filterMap_append, ← ih]
    cases m with
    | stop route =>
      obtain rfl := Option.some.inj hm
      cases hstop : s₁.control.isStopped <;> simp [Scene.stop, hstop, sentIn, Move.sends?]
    | act i a =>
      obtain ⟨-, r, stage, next, hr, -, -, rfl⟩ := Scene.after?_act.1 hm
      rw [Scene.log_put, sentIn_append, sentIn_events]
      cases a <;> simp [Move.sends?, hr]

/-- Two requests to the same URL are one, if the URLs differ. -/
theorem index_eq_of_url {requests : List Request} (hurls : (requests.map (·.url)).Nodup)
    {i j : Nat} {r r' : Request} (hr : requests[i]? = some r) (hr' : requests[j]? = some r')
    (h : r'.url = r.url) : j = i := by
  have hi : (requests.map (·.url))[i]? = some r.url := by
    rw [List.getElem?_map, hr, Option.map_some]
  have hj : (requests.map (·.url))[j]? = some r.url := by
    rw [List.getElem?_map, hr', Option.map_some, h]
  exact (List.getElem?_inj (List.getElem?_eq_some_iff.1 hj).1 hurls).1 (hj.trans hi.symm)

/-- What is sent to the URL of a request is that request. -/
theorem filter_sends {requests : List Request} (hurls : (requests.map (·.url)).Nodup) {i : Nat}
    {r : Request} (hr : requests[i]? = some r) (moves : List Move) :
    (moves.filterMap (Move.sends? requests)).filter (·.url == r.url) =
      List.replicate (sendsIn (actsOf i moves)) r := by
  induction moves using List.reverseRecOn with
  | nil => rfl
  | append_singleton moves m ih =>
    rw [List.filterMap_append, List.filter_append, ih, actsOf_concat]
    cases m with
    | stop route => simp [Move.sends?, Move.act?]
    | act j a =>
      by_cases hij : j = i
      · subst hij
        cases a <;> simp [Move.sends?, Move.act?, hr, List.replicate_succ']
      · -- another request has another URL
        rw [Move.act?, if_neg hij, Option.toList_none, List.append_nil]
        cases a with
        | receive p => simp [Move.sends?]
        | answer yes => simp [Move.sends?]
        | send =>
          cases hr' : requests[j]? with
          | none => simp [Move.sends?, hr']
          | some r' =>
            have hne : r'.url ≠ r.url := by
              intro h
              exact hij (index_eq_of_url hurls hr hr' h)
            simp [Move.sends?, hr', hne]

/-- Nothing is sent to a URL of no request. -/
theorem filter_sends_eq_nil {requests : List Request} {u : Url} (hu : ∀ r ∈ requests, r.url ≠ u)
    (moves : List Move) : (moves.filterMap (Move.sends? requests)).filter (·.url == u) = [] := by
  rw [List.filter_eq_nil_iff]
  intro r hr
  obtain ⟨m, -, hm⟩ := List.mem_filterMap.1 hr
  cases m with
  | stop route => cases hm
  | act i a =>
    cases a with
    | receive p => cases hm
    | answer yes => cases hm
    | send => simpa using hu r (List.mem_of_getElem? hm)

/-- **A run in any order comes to what the queues decide.** -/
theorem Runs.settles {b : Batch} {moves : List Move} {s : Scene} (h : b.Runs false moves s)
    (hb : b.control.isStopped = false) (hlog : b.log = [])
    (hurls : (b.requests.map (·.url)).Nodup) (hgo : moves.any Move.isStop = false)
    {queue : Url → Nat → Reply} (hqueue : Queued queue b.requests moves) :
    Settles queue b (b.ended s).1 (b.ended s).2.log := by
  have hreports := h.reports
  have hasks : (b.policyFor false).asks = false := Bool.and_false _
  have hsettled {i : Nat} {r : Request} (hr : b.requests[i]? = some r) :
      (b.ended s).1.replies[i]? = some (settled b.policy.limit (queue r.url)) ∧
        sendsIn (actsOf i moves) = (tries b.policy.limit (queue r.url)).length := by
    obtain ⟨p, hp, hretries⟩ := h.finishes hb hgo hr
    obtain ⟨rfl, hsends⟩ := hretries.settled_of_finished hasks (hqueue i r hr)
    exact ⟨hp, hsends⟩
  have hsent : sentIn (b.ended s).2.log = moves.filterMap (Move.sends? b.requests) :=
    sentIn_of_scene? hlog h.reaches
  constructor
  case replies_eq =>
    apply List.ext_getElem?
    intro i
    rw [List.getElem?_map]
    cases hr : b.requests[i]? with
    | none =>
      rw [List.getElem?_eq_none_iff] at hr
      rw [Option.map_none, List.getElem?_eq_none_iff, hreports.length_replies]
      exact hr
    | some r => rw [(hsettled hr).1, Option.map_some]
  case sentTo_eq =>
    intro r hr
    obtain ⟨i, hi⟩ := List.mem_iff_getElem?.1 hr
    rw [sentTo, hsent, filter_sends hurls hi, (hsettled hi).2]
  case sentTo_eq_nil =>
    intro u hu
    rw [sentTo, hsent, filter_sends_eq_nil hu]
  case fault_eq => rfl
  case phase_eq =>
    rw [hreports.phase_eq, hb, hgo]
    rfl

/-! ### Runs in turns -/

/-- What is sent for a request in its turn. -/
def sendsFor (queue : Url → Nat → Reply) (limit : Nat) (r : Request) : List Event :=
  List.replicate (tries limit (queue r.url)).length (.sent r)

theorem sentIn_sendsFor (queue : Url → Nat → Reply) (limit : Nat) (r : Request) :
    sentIn (sendsFor queue limit r) =
      List.replicate (tries limit (queue r.url)).length r := by
  simp [sentIn, sendsFor]

theorem sentTo_sendsFor (queue : Url → Nat → Reply) (limit : Nat) (r : Request) (u : Url) :
    sentTo u (sendsFor queue limit r) =
      if r.url = u then List.replicate (tries limit (queue r.url)).length r else [] := by
  rw [sentTo, sentIn_sendsFor, List.filter_replicate]
  simp

namespace Course

variable {policy : RetryPolicy} {c : Course}

/-- One turn of a request that nobody is asked about, and whose queue is full. -/
theorem turn_queued (queue : Url → Nat → Reply) (hasks : policy.asks = false) {r : Request}
    (hsent : sentTo r.url c.log = []) (route : Route) (i : Nat) :
    c.turn (ofQueues queue) route policy ⟨i, r, none⟩ =
      ({ c with log := c.log ++ sendsFor queue policy.limit r },
        .finished (settled policy.limit (queue r.url))) := by
  have hserver (j : Nat) :
      ofQueues queue (sentIn c.log ++ List.replicate j r) r = .reply (queue r.url j) := by
    have hnone : (sentIn c.log).countP (·.url == r.url) = 0 := by
      rw [List.countP_eq_length_filter]
      exact congrArg List.length hsent
    rw [ofQueues, List.countP_append, hnone, List.countP_replicate]
    simp
  have hstory := story_of_tried policy r 0 (tried_tries policy.limit (queue r.url))
  have hquiet : ¬ (policy.asks = true ∧ (settled policy.limit (queue r.url)).mayPass = true) := by
    rintro ⟨hask, -⟩
    rw [hasks] at hask
    cases hask
  rw [turn_tries hserver route policy i 0, hstory, if_neg hquiet, List.append_nil, hasks,
    Bool.false_and, if_neg Bool.false_ne_true]
  rfl

/-- **All turns** when nobody is asked and all queues are full. -/
theorem work_queued (queue : Url → Nat → Reply) (hasks : policy.asks = false) (total : Nat)
    {waiting : List Pending}
    (hwaiting : ∀ q ∈ waiting, q.declined = none)
    (hurls : (waiting.map (·.request.url)).Nodup)
    (hsent : ∀ q ∈ waiting, sentTo q.request.url c.log = [])
    (hc : c.control.isStopped = false) (hlive : IsLive c.control) (route : Route) :
    ∃ control, control.isStopped = false ∧ IsLive control ∧
      c.work (ofQueues queue) route policy total waiting [] =
        { c with
          control := control
          log := c.log ++ waiting.flatMap fun q => sendsFor queue policy.limit q.request
          finished := c.finished ++
            waiting.map fun q => (q.index, settled policy.limit (queue q.request.url)) } := by
  induction waiting generalizing c with
  | nil =>
    refine ⟨c.control, hc, hlive, ?_⟩
    rw [work]
    simp
  | cons q waiting ih =>
    obtain ⟨i, r, declined⟩ := q
    obtain rfl : declined = none := hwaiting _ (.head _)
    obtain ⟨hfirst, hothers⟩ := List.nodup_cons.1 hurls
    have hfresh : ∀ q ∈ waiting, q.declined = none := by
      intro q hq
      exact hwaiting q (.tail _ hq)
    have hturn := turn_queued queue hasks (hsent _ (.head _)) route i
    -- the other queues stay full
    have hfull : ∀ q ∈ waiting,
        sentTo q.request.url (c.log ++ sendsFor queue policy.limit r) = [] := by
      intro q hq
      have hne : r.url ≠ q.request.url := by
        intro h
        exact hfirst (List.mem_map.2 ⟨q, hq, h.symm⟩)
      rw [sentTo_append, hsent q (.tail _ hq), sentTo_sendsFor, if_neg hne, List.append_nil]
    obtain ⟨control, hc', hlive', hwork⟩ :=
      ih (c := Course.finish total { c with log := c.log ++ sendsFor queue policy.limit r } i
          (settled policy.limit (queue r.url)))
        hfresh hothers hfull hc (hlive.tell_progress ..)
    refine ⟨control, hc', hlive', ?_⟩
    rw [work_turn, hturn]
    dsimp only
    rw [if_neg (by simp [hc]), hwork]
    simp [Course.finish]

end Course

/-- The reply that a request is finished with stands at its place. -/
theorem lookup_zipIdx (requests : List Request) (f : Request → Reply) (n i : Nat) :
    ((requests.zipIdx n).map fun (r, j) => (j, f r)).lookup (n + i) = requests[i]?.map f := by
  induction requests generalizing n i with
  | nil => rfl
  | cons r requests ih =>
    rw [List.zipIdx_cons, List.map_cons]
    cases i with
    | zero => simp
    | succ i =>
      have hne : (n + (i + 1) == n) = false := by simp
      have hrest := ih (n + 1) i
      rw [List.lookup_cons, hne, List.getElem?_cons_succ, ← hrest, Nat.add_assoc, Nat.add_comm 1 i]

/-- The phase that a batch ends in. -/
theorem phase_conclude {c : Control} (h : IsLive c) (fault : Option Fault) :
    (conclude c fault).activity.phase =
      if c.isStopped then .aborted else if fault.isSome then .failed else .succeeded :=
  congrArg Snapshot.phase (conclude_spec h fault)

/-- The replies at the end are those that the requests are finished with. -/
theorem replies_eq_map (requests : List Request) (f : Request → Reply) :
    (requests.zipIdx.map fun (r, i) =>
        finalReply (requests.zipIdx.map fun (r, j) => (j, f r)) i r) = requests.map f := by
  apply List.ext_getElem?
  intro i
  rw [List.getElem?_map, List.getElem?_map, List.getElem?_zipIdx, Option.map_map]
  cases hr : requests[i]? with
  | none => rfl
  | some r =>
    have hlookup := lookup_zipIdx requests f 0 i
    rw [hr, Option.map_some] at hlookup
    simp only [Option.map_some, Function.comp, finalReply, hlookup, Option.getD_some]

theorem sentTo_flatMap_eq_nil {requests : List Request} {u : Url}
    (hu : ∀ r ∈ requests, r.url ≠ u) (queue : Url → Nat → Reply) (limit : Nat) :
    sentTo u (requests.flatMap (sendsFor queue limit)) = [] := by
  induction requests with
  | nil => rfl
  | cons r requests ih =>
    rw [List.flatMap_cons, sentTo_append, sentTo_sendsFor, if_neg (hu r (.head _)),
      ih fun r' hr' => hu r' (.tail _ hr')]
    rfl

theorem sentTo_flatMap {requests : List Request} (hurls : (requests.map (·.url)).Nodup)
    (queue : Url → Nat → Reply) (limit : Nat) {r : Request} (hr : r ∈ requests) :
    sentTo r.url (requests.flatMap (sendsFor queue limit)) =
      List.replicate (tries limit (queue r.url)).length r := by
  induction requests with
  | nil => cases hr
  | cons r' requests ih =>
    obtain ⟨hfirst, hothers⟩ := List.nodup_cons.1 hurls
    have hne : ∀ q ∈ requests, q.url ≠ r'.url := by
      intro q hq h
      exact hfirst (List.mem_map.2 ⟨q, hq, h⟩)
    rw [List.flatMap_cons, sentTo_append, sentTo_sendsFor]
    rcases List.mem_cons.1 hr with rfl | hr
    · rw [if_pos rfl, sentTo_flatMap_eq_nil hne, List.append_nil]
    · rw [if_neg (Ne.symm (hne r hr)), List.nil_append, ih hothers hr]

/-- **A run in turns comes to what the queues decide.** -/
theorem run_settles {b : Batch} (h : b.control.activity.phase = .inactive)
    (hb : b.control.isStopped = false) (hlog : b.log = [])
    (hurls : (b.requests.map (·.url)).Nodup) (queue : Url → Nat → Reply) (route : Route) :
    ∃ result, b.run (ofQueues queue) route none = .ok result ∧
      Settles queue b result.1 result.2.log := by
  have hasks : (b.policyFor false).asks = false := Bool.and_false _
  have hlive : IsLive b.scene.control := (Sound.start h).live
  have hfresh : ∀ q ∈ b.pendings, q.declined = none := by
    intro q hq
    exact declined_of_mem_pendings hq
  have hwaiting : (b.pendings.map (·.request.url)).Nodup := by
    rwa [← map_request_pendings, List.map_map] at hurls
  have hunsent : ∀ q ∈ b.pendings, sentTo q.request.url b.log = [] := by
    intro q _
    rw [hlog]
    rfl
  obtain ⟨control, hc, hlive', hwork⟩ :=
    Course.work_queued (c := ⟨b.scene.control, b.log, [], []⟩) queue hasks b.requests.length
      hfresh hwaiting hunsent hb hlive route
  have hsends : b.pendings.flatMap (fun q => sendsFor queue b.policy.limit q.request) =
      b.requests.flatMap (sendsFor queue b.policy.limit) := by
    conv => rhs; rw [← map_request_pendings b, List.flatMap_map]
  have hfinished :
      b.pendings.map (fun q => (q.index, settled b.policy.limit (queue q.request.url))) =
        b.requests.zipIdx.map fun (r, j) => (j, settled b.policy.limit (queue r.url)) := by
    rw [pendings, List.map_map]
    rfl
  have hcourse : b.course (ofQueues queue) route none =
      ⟨control, b.requests.flatMap (sendsFor queue b.policy.limit),
        b.requests.zipIdx.map fun (r, j) => (j, settled b.policy.limit (queue r.url)), []⟩ := by
    have hall := (Course.work_start hb b.pendings).trans hwork
    rw [hlog] at hall
    rw [course, hlog]
    refine (congrArg (Course.release route b.requests.length) hall).trans ?_
    simp only [List.nil_append, policyFor, hsends, hfinished]
    refine if_neg ?_
    simp
  refine ⟨_, run_of_inactive h .., ?_⟩
  constructor
  case replies_eq =>
    rw [replies_closing, hcourse]
    exact replies_eq_map b.requests fun r => settled b.policy.limit (queue r.url)
  case sentTo_eq =>
    intro r hr
    rw [log_closing, hcourse]
    exact sentTo_flatMap hurls queue b.policy.limit hr
  case sentTo_eq_nil =>
    intro u hu
    rw [log_closing, hcourse]
    exact sentTo_flatMap_eq_nil hu queue b.policy.limit
  case fault_eq => rfl
  case phase_eq =>
    rw [phase_closing, phase_conclude (by rwa [hcourse]), hcourse, hc]
    rfl

/-! ### Two orders -/

/-- What a run of a batch comes to that is never told to stop, when nobody is asked and its replies
wait in queues. -/
inductive RunsTo (queue : Url → Nat → Reply) (b : Batch) : Report × Batch → Prop
  /-- Its requests follow each other in any order. -/
  | anyOrder {moves : List Move} {s : Scene} (h : b.Runs false moves s)
    (hgo : moves.any Move.isStop = false) (hqueue : Queued queue b.requests moves) :
    RunsTo queue b (b.ended s)
  /-- They have their turns. -/
  | inTurns {route : Route} {result : Report × Batch}
    (h : b.run (ofQueues queue) route none = .ok result) : RunsTo queue b result

theorem RunsTo.settles {name : String} {policy : RetryPolicy} {requests : List Request}
    {queue : Url → Nat → Reply} {result : Report × Batch}
    (h : RunsTo queue (prepared name policy requests) result)
    (hurls : (requests.map (·.url)).Nodup) :
    Settles queue (prepared name policy requests) result.1 result.2.log := by
  cases h with
  | anyOrder hruns hgo hqueue => exact hruns.settles rfl rfl hurls hgo hqueue
  | @inTurns route _ hrun =>
    obtain ⟨result', hrun', hsettles⟩ :=
      run_settles (b := prepared name policy requests) rfl rfl rfl hurls queue route
    obtain rfl : result = result' := Except.ok.inj (hrun.symm.trans hrun')
    exact hsettles

/-- The fault of a report is the first of its replies that is a failure, with its status and its
message. -/
def Report.NamesFirst (report : Report) : Prop :=
  ∀ f, report.fault = some f →
    (∃ p e, report.replies[f.index]? = some p ∧ p.failure = some e ∧ f.status = p.status ∧
      f.message = e.message) ∧
    ∀ (j : Nat) (p : Reply), j < f.index → report.replies[j]? = some p → p.failure = none

/-- Two batches with the same requests, each in its own order, come to the same. -/
structure Reordered (requests requests' : List Request) (result result' : Report × Batch) :
    Prop where
  /-- They end in the same phase. -/
  phase_eq : result'.1.phase = result.1.phase
  /-- Their replies are in the order of their requests. -/
  replies_eq : ∃ reply : Request → Reply,
    result.1.replies = requests.map reply ∧ result'.1.replies = requests'.map reply
  /-- They send the same to each URL, and equally often. -/
  sentTo_eq (u : Url) : sentTo u result'.2.log = sentTo u result.2.log
  /-- If there is a fault in one of them, there is one in the other. -/
  fault_isSome : result'.1.fault.isSome = result.1.fault.isSome
  /-- The fault of the one is the first in its order, -/
  first : result.1.NamesFirst
  /-- and that of the other in its own. -/
  first' : result'.1.NamesFirst

/-- Whether there is a fault does not depend on the order of the replies. -/
theorem isSome_fault?_of_perm {ps qs : List Reply} (h : qs.Perm ps) :
    (fault? qs).isSome = (fault? ps).isSome := by
  have hnone : fault? qs = none ↔ fault? ps = none := by
    rw [fault?_eq_none_iff, fault?_eq_none_iff]
    constructor
    · intro hall p hp
      exact hall p (h.mem_iff.2 hp)
    · intro hall p hp
      exact hall p (h.mem_iff.1 hp)
  rw [Bool.eq_iff_iff, Option.isSome_iff_ne_none, Option.isSome_iff_ne_none, ne_eq, ne_eq, hnone]

theorem Settles.namesFirst {queue : Url → Nat → Reply} {b : Batch} {report : Report}
    {log : List Event} (h : Settles queue b report log) : report.NamesFirst := by
  intro f hf
  rw [h.fault_eq] at hf
  exact fault?_eq_some hf

/-- What is decided by the queues does not depend on the order of the requests. -/
theorem Settles.reordered {queue : Url → Nat → Reply} {b b' : Batch}
    {result result' : Report × Batch} (h : Settles queue b result.1 result.2.log)
    (h' : Settles queue b' result'.1 result'.2.log)
    (hperm : b'.requests.Perm b.requests) (hlimit : b'.policy.limit = b.policy.limit) :
    Reordered b.requests b'.requests result result' := by
  have hfault : result'.1.fault.isSome = result.1.fault.isSome := by
    rw [h.fault_eq, h'.fault_eq, h.replies_eq, h'.replies_eq, hlimit]
    exact isSome_fault?_of_perm (hperm.map _)
  constructor
  case phase_eq => rw [h.phase_eq, h'.phase_eq, hfault]
  case replies_eq =>
    refine ⟨fun r => settled b.policy.limit (queue r.url), h.replies_eq, ?_⟩
    rw [h'.replies_eq, hlimit]
  case sentTo_eq =>
    intro u
    by_cases hu : ∃ r ∈ b.requests, r.url = u
    · obtain ⟨r, hr, rfl⟩ := hu
      rw [h.sentTo_eq hr, h'.sentTo_eq (hperm.mem_iff.2 hr), hlimit]
    · -- no request goes to this URL in either order
      have hother : ∀ r ∈ b.requests, r.url ≠ u := by
        intro r hr hne
        exact hu ⟨r, hr, hne⟩
      have hother' : ∀ r ∈ b'.requests, r.url ≠ u := by
        intro r hr
        exact hother r (hperm.mem_iff.1 hr)
      rw [h.sentTo_eq_nil hother, h'.sentTo_eq_nil hother']
  case fault_isSome => exact hfault
  case first => exact h.namesFirst
  case first' => exact h'.namesFirst

/-- **The order of the requests makes no difference** when their URLs differ, nobody is asked and
the replies to each URL wait in a queue of its own.  Both batches come to an end in turns. -/
theorem run_reordered (name : String) (policy : RetryPolicy) {requests requests' : List Request}
    (hperm : requests'.Perm requests) (hurls : (requests.map (·.url)).Nodup)
    (queue : Url → Nat → Reply) :
    (∀ result result', RunsTo queue (prepared name policy requests) result →
      RunsTo queue (prepared name policy requests') result' →
      Reordered requests requests' result result') ∧
    ∀ route, ∃ result result',
      (prepared name policy requests).run (ofQueues queue) route none = .ok result ∧
      (prepared name policy requests').run (ofQueues queue) route none = .ok result' := by
  have hurls' : (requests'.map (·.url)).Nodup := (hperm.map _).nodup_iff.2 hurls
  constructor
  · intro result result' h h'
    exact (h.settles hurls).reordered (h'.settles hurls') hperm rfl
  · intro route
    obtain ⟨result, hrun, -⟩ :=
      run_settles (b := prepared name policy requests) rfl rfl rfl hurls queue route
    obtain ⟨result', hrun', -⟩ :=
      run_settles (b := prepared name policy requests') rfl rfl rfl hurls' queue route
    exact ⟨result, result', hrun, hrun'⟩

/-- A request for other data. -/
def otherRequest : Request := .download { someRequest.url with path := .rooted ["b"] }

/-- Only the other data arrive. -/
def someQueue (u : Url) (_ : Nat) : Reply :=
  if u = someRequest.url then someDelay else .ofResponse u 200 [] []

/-- A request that never gets through is named at the place where it stands. -/
theorem run_reordered_swapped :
    [otherRequest, someRequest].Perm [someRequest, otherRequest] ∧
    ([someRequest, otherRequest].map (·.url)).Nodup ∧
    ∃ result result',
      (prepared "job" ⟨true, 1⟩ [someRequest, otherRequest]).run (ofQueues someQueue) .token none =
        .ok result ∧
      (prepared "job" ⟨true, 1⟩ [otherRequest, someRequest]).run (ofQueues someQueue) .token none =
        .ok result' ∧
      result.1.fault = some ⟨0, none, "no reply"⟩ ∧
      result'.1.fault = some ⟨1, none, "no reply"⟩ ∧
      sentTo someRequest.url result.2.log = [someRequest, someRequest] ∧
      Reordered [someRequest, otherRequest] [otherRequest, someRequest] result result' := by
  have hperm : [otherRequest, someRequest].Perm [someRequest, otherRequest] := List.Perm.swap ..
  have hurls : ([someRequest, otherRequest].map (·.url)).Nodup := by decide
  obtain ⟨hsame, hruns⟩ := run_reordered "job" ⟨true, 1⟩ hperm hurls someQueue
  obtain ⟨result, result', hrun, hrun'⟩ := hruns .token
  have hsettles := (RunsTo.inTurns hrun).settles hurls
  have hsettles' := (RunsTo.inTurns hrun').settles ((hperm.map _).nodup_iff.2 hurls)
  refine ⟨hperm, hurls, result, result', hrun, hrun', ?_, ?_, ?_,
    hsame _ _ (.inTurns hrun) (.inTurns hrun')⟩
  · rw [hsettles.fault_eq, hsettles.replies_eq]
    rfl
  · rw [hsettles'.fault_eq, hsettles'.replies_eq]
    rfl
  · exact hsettles.sentTo_eq (.head _)

end Batch

end SignIn
