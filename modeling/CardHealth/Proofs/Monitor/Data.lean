import CardHealth.Proofs.Monitor.List

/-!
# Requests for records

What a request to the endpoint for records is answered.  The connection decides first, then the
bound, then the query (`respond_decides_in_order`), and the static body tells of an outage alone
(`body_respond_eq_iff`).  On a well-typed store a bound filters the records if it has 64 bits, and
is refused by the store otherwise (`respond_bounded`).
-/

namespace CardHealth

open Http Store

/-- Whether the endpoint for records handles a request. -/
def Http.Request.asksForRecords (r : Request) : Bool :=
  Endpoint.at? (Text.percentDecode r.path.toList) = some .data &&
    Endpoint.data.methods.contains r.method

namespace Monitor

variable {m : Monitor} {r : Request}

theorem respond_of_asksForRecords (m : Monitor) (hr : r.asksForRecords = true) :
    m.respond r = m.serveData r := by
  obtain ⟨hpath, hmethod⟩ := Bool.and_eq_true_iff.mp hr
  -- A preflight request has a method that the endpoint refuses.
  have hpreflight : Cors.isPreflight r = false := by
    have hne : r.method ≠ "OPTIONS" := fun h => by
      rw [h] at hmethod
      exact absurd hmethod (by decide)
    simp [Cors.isPreflight, hne]
  have hfind : Route.find r.method (Text.percentDecode r.path.toList) = .handled .data := by
    unfold Route.find
    rw [of_decide_eq_true hpath]
    exact if_pos hmethod
  unfold respond
  rw [hpreflight, hfind]
  rfl

/-! ### Opening the connection -/

/-- The engine whose database does not answer, and the reason. -/
def outage? (m : Monitor) : Option (Engine × String) :=
  match m.connect.1 with
  | .error (.connection engine (.unavailable reason)) => some (engine, reason)
  | _ => none

theorem connect_log (m : Monitor) : m.connect.2.log = m.log := by
  obtain ⟨settings, engine, opened, hframe⟩ := m.connect_frame
  rw [hframe]

theorem connect_of_outage? {engine : Engine} {reason : String}
    (h : m.outage? = some (engine, reason)) :
    m.connect.1 = .error (.connection engine (.unavailable reason)) := by
  unfold outage? at h
  split at h
  · rename_i hconnect
    obtain ⟨rfl, rfl⟩ := Prod.mk.inj (Option.some.inj h)
    exact hconnect
  · cases h

/-- That the database does not answer is logged, and nothing else is. -/
theorem openConnection_of_outage? {engine : Engine} {reason : String}
    (h : m.outage? = some (engine, reason)) :
    m.openConnection =
      (.error .unavailable, m.connect.2.report (unavailableEntry engine reason)) := by
  unfold openConnection
  rw [← Prod.mk.eta (p := m.connect), connect_of_outage? h]

theorem openConnection_of_outage?_eq_none (h : m.outage? = none) :
    m.openConnection = m.connect := by
  unfold outage? at h
  unfold openConnection
  split
  · rename_i hconnect
    rw [hconnect] at h
    cases h
  · rfl

/-- Only opening a connection for a request tells that it was logged. -/
theorem connect_ne_unavailable (m : Monitor) : m.connect.1 ≠ .error .unavailable := by
  intro h
  obtain ⟨e, he⟩ | ⟨e, he⟩ | ⟨engine, e, he⟩ := connect_error_cases h
  · cases he
  · cases he
  · cases he

/-! ### Replies -/

theorem respond_of_outage? (hr : r.asksForRecords = true) {engine : Engine} {reason : String}
    (h : m.outage? = some (engine, reason)) :
    m.respond r = (.ofResponse r unavailableResponse,
      m.connect.2.report (unavailableEntry engine reason)) := by
  rw [respond_of_asksForRecords m hr, serveData, openConnection_of_outage? h]

theorem respond_of_failure (hr : r.asksForRecords = true) (h : m.outage? = none) {f : Failure}
    (hconnect : m.connect.1 = .error f) : m.respond r = (.ofFailure f, m.connect.2) := by
  have hne := m.connect_ne_unavailable
  rw [respond_of_asksForRecords m hr, serveData, openConnection_of_outage?_eq_none h]
  split
  · rename_i hunavailable
    rw [hunavailable] at hne
    exact absurd rfl hne
  · rename_i hfailed
    rw [hfailed] at hconnect ⊢
    rw [Except.error.inj hconnect]
  · rename_i hconnected
    rw [hconnected] at hconnect
    cases hconnect

theorem respond_of_connect (hr : r.asksForRecords = true) {connection : Connection}
    (hconnect : m.connect.1 = .ok connection) :
    m.respond r =
      ((m.connect.2.serveRecords r connection).1,
        (m.connect.2.serveRecords r connection).2.disconnect) := by
  have hout : m.outage? = none := by rw [outage?, hconnect]
  rw [respond_of_asksForRecords m hr, serveData, openConnection_of_outage?_eq_none hout,
    ← Prod.mk.eta (p := m.connect), hconnect]

theorem serveRecords_of_error {e : Since.Error} (h : Since.read r = .error e) (m : Monitor)
    (connection : Connection) : m.serveRecords r connection = (sinceReply r e, m) := by
  rw [serveRecords, h]

/-- The answer to a request whose bound is known is the list, or the failure to list. -/
theorem respond_fst_of_bound (hr : r.asksForRecords = true) {connection : Connection}
    (hconnect : m.connect.1 = .ok connection) {since : Option Int}
    (h : Since.read r = .ok since) :
    (m.respond r).1 =
      match (m.list since).1 with
      | .ok records => .ofResponse r (.json 200 (CardStatus.listToJson records))
      | .error f => .ofFailure f := by
  have hlist : (m.list since).1 = (m.connect.2.records connection since).1 := by
    rw [list_fst, hconnect, records_fst]
    rfl
  rw [respond_of_connect hr hconnect, hlist, serveRecords, h]
  dsimp only
  split <;> rename_i hrecords <;> rw [hrecords]

/-- The statuses of answers to requests whose bound cannot be told. -/
theorem status_sinceReply_mem (r : Request) (e : Since.Error) :
    (sinceReply r e).response.status ∈ [400, 422, 500] := by
  cases e with
  | notAnInteger => exact (by decide : 422 ∈ [400, 422, 500])
  | form error =>
    cases error with
    | mixedParts firstIsNumbered => exact (by decide : 500 ∈ [400, 422, 500])
    | _ => exact (by decide : 400 ∈ [400, 422, 500])

/-! ### Bodies -/

/-- The body of the response if the database does not answer. -/
def unavailableBody : String :=
  "\x7b\"error\":\"Unable to connect to the MySQL server.\"\x7d"

theorem unavailableResponse_body : unavailableResponse.body = unavailableBody := by
  decide

theorem body_array_ne (status : Nat) (items : List Json) :
    (Response.json status (.array items)).body ≠ unavailableBody := by
  intro h
  have hhead := congrArg (·.toList.head?) h
  simp [Response.json, Response.ofBody, Json.render, unavailableBody] at hhead

theorem body_detail_ne (status : Nat) (message : String) :
    (Response.detail status message).body ≠ unavailableBody := by
  intro h
  have hthird := congrArg (·.toList[2]?) h
  simp [Response.detail, Response.json, Response.ofBody, Json.render, Json.renderMembers,
    Json.renderString, Json.escapeChar, unavailableBody] at hthird

theorem body_ofFailure_ne (f : Failure) : (Reply.ofFailure f).response.body ≠ unavailableBody := by
  show Response.internalError.body ≠ unavailableBody
  decide

theorem body_sinceReply_ne (r : Request) (e : Since.Error) :
    (sinceReply r e).response.body ≠ unavailableBody := by
  cases e with
  | notAnInteger => exact body_detail_ne 422 _
  | form error =>
    cases error with
    | mixedParts firstIsNumbered => exact body_ofFailure_ne _
    | _ => exact body_detail_ne 400 _

/-- **The static body tells of an outage**, and only of an outage. -/
theorem body_respond_eq_iff (m : Monitor) (hr : r.asksForRecords = true) :
    (m.respond r).1.response.body = unavailableBody ↔ m.outage?.isSome = true := by
  cases hout : m.outage? with
  | some outage =>
    rw [respond_of_outage? hr hout]
    exact iff_of_true unavailableResponse_body rfl
  | none =>
    -- Every other body is the plain text, a list, or an object with another key.
    refine iff_of_false ?_ (by simp)
    cases hconnect : m.connect.1 with
    | error f =>
      rw [respond_of_failure hr hout hconnect]
      exact body_ofFailure_ne f
    | ok connection =>
      cases hsince : Since.read r with
      | error e =>
        rw [respond_of_connect hr hconnect, serveRecords_of_error hsince]
        exact body_sinceReply_ne r e
      | ok since =>
        rw [respond_fst_of_bound hr hconnect hsince]
        split
        · exact body_array_ne 200 _
        · exact body_ofFailure_ne _

/-! ### The order of failures -/

/-- **What a request for records is answered**.  If the database does not answer, that is what the
client is told, and it is logged.  If there is no connection for another reason, that failure is
raised.  Otherwise a bound that cannot be told is the answer, and no query is made; and otherwise
the list is, or the failure to list is raised.  The static body belongs to the first case alone. -/
theorem respond_decides_in_order (m : Monitor) (r : Request) (hr : r.asksForRecords = true) :
    (∀ engine reason, m.outage? = some (engine, reason) →
      (m.respond r).1.raised = none ∧ (m.respond r).1.response.status = 500 ∧
        (m.respond r).1.response.body = unavailableBody ∧
        ∃ entry, entry.level = "ERROR" ∧ (m.respond r).2.log = m.log ++ [entry]) ∧
    (∀ f, m.outage? = none → m.connect.1 = .error f →
      (m.respond r).1 = .ofFailure f ∧ (m.respond r).2.log = m.log) ∧
    (∀ connection e, m.connect.1 = .ok connection → Since.read r = .error e →
      (m.respond r).2.log = m.log ∧
        match e with
        | .notAnInteger => (m.respond r).1 =
            .ofResponse r (.detail 422 "since must be an integer timestamp")
        | .form (.mixedParts firstIsNumbered) => (m.respond r).1 =
            .ofFailure (.form (.mixedParts firstIsNumbered))
        | .form error => (m.respond r).1 = .ofResponse r (.detail 400 error.message)) ∧
    (∀ connection since, m.connect.1 = .ok connection → Since.read r = .ok since →
      (m.respond r).1 =
        match (m.list since).1 with
        | .ok records => .ofResponse r (.json 200 (CardStatus.listToJson records))
        | .error f => .ofFailure f) ∧
    ((m.respond r).1.response.body = unavailableBody ↔ m.outage?.isSome = true) := by
  have hlog := m.connect_log
  refine ⟨fun engine reason hout => ?_, fun f hout hconnect => ?_,
    fun connection e hconnect hsince => ?_,
    fun connection since hconnect hsince => respond_fst_of_bound hr hconnect hsince,
    body_respond_eq_iff m hr⟩
  · rw [respond_of_outage? hr hout]
    refine ⟨rfl, rfl, unavailableResponse_body, unavailableEntry engine reason, rfl, ?_⟩
    rw [← hlog]
    rfl
  · rw [respond_of_failure hr hout hconnect]
    exact ⟨rfl, hlog⟩
  · rw [respond_of_connect hr hconnect, serveRecords_of_error hsince]
    refine ⟨hlog, ?_⟩
    cases e with
    | notAnInteger => rfl
    | form error => cases error <;> rfl

/-- A request for records with this query. -/
def asking (query : String) : Request :=
  ⟨"GET", "/api/data", query.toUTF8.toList, [], []⟩

/-- A service whose database server may take no time to answer. -/
def outOfTime : Monitor :=
  start { environment := [("CARDMONITOR_MYSQL_CONNECT_TIMEOUT", "0")] }

theorem respond_decides_in_order_small :
    (((start {}).respond (asking "since=abc")).1.response.body = unavailableBody ∧
      ∃ entry, entry.level = "ERROR" ∧
        ((start {}).respond (asking "since=abc")).2.log = [entry]) ∧
    (∃ f, (outOfTime.respond (asking "since=abc")).1 = .ofFailure f) ∧
    ((small (-1)).respond (asking "since=abc")).1 =
      .ofResponse (asking "since=abc") (.detail 422 "since must be an integer timestamp") ∧
    ((small (-1)).respond (asking "since=95")).1 =
      .ofResponse (asking "since=95")
        (.json 200 (CardStatus.listToJson (listing smallCards smallSnapshots (some 95)))) := by
  obtain ⟨db, hdb, hholds⟩ := exists_small_holds
  obtain ⟨connection, hconnect, -⟩ := found?_eq_some_iff.mp hdb
  refine ⟨?_, ?_, ?_, ?_⟩
  · obtain ⟨⟨engine, reason⟩, hout⟩ : ∃ outage, (start {}).outage? = some outage :=
      Option.isSome_iff_exists.mp (by decide +kernel)
    obtain ⟨-, -, hbody, hlog⟩ := (respond_decides_in_order (start {})
      (asking "since=abc") (by decide +kernel)).1 engine reason hout
    exact ⟨hbody, hlog⟩
  · have hfailed : outOfTime.connect.1.toOption.isNone = true := by decide +kernel
    cases hf : outOfTime.connect.1 with
    | ok connection =>
      rw [hf] at hfailed
      cases hfailed
    | error f =>
      exact ⟨f, ((respond_decides_in_order outOfTime (asking "since=abc")
        (by decide +kernel)).2.1 f (by decide +kernel) hf).1⟩
  · exact ((respond_decides_in_order (small (-1)) (asking "since=abc")
      (by decide +kernel)).2.2.1 connection .notAnInteger hconnect (by decide +kernel)).2
  · have hreply := (respond_decides_in_order (small (-1)) (asking "since=95")
      (by decide +kernel)).2.2.2.1 connection (some 95) hconnect (by decide +kernel)
    rw [list_eq_listing hdb hholds (by decide)] at hreply
    exact hreply

/-- Without an outage, a bound that is no integer does not always decide: opening the connection may
fail for another reason. -/
theorem not_forall_bound_decides :
    ¬ ∀ (m : Monitor) (r : Request), r.asksForRecords = true → m.outage? = none →
      Since.read r = .error .notAnInteger → (m.respond r).1.response.status = 422 := by
  intro h
  have hstatus := h outOfTime (asking "since=abc") (by decide +kernel) (by decide +kernel)
    (by decide +kernel)
  have hinternal : (outOfTime.respond (asking "since=abc")).1.response.status = 500 := by
    decide +kernel
  rw [hinternal] at hstatus
  cases hstatus

/-! ### Bounds -/

/-- **The answer to a bounded request** on a well-typed store: if the bound has 64 bits, those
records of the unbounded answer that are not older, ordered by name; otherwise a failure of the
store, however good the bound is. -/
theorem respond_bounded {db : Database} {cards : List Card} {snapshots : List Snapshot}
    (hdb : m.found? = some db) (hholds : db.Holds cards snapshots) (unbounded bounded : Request)
    (hu : unbounded.asksForRecords = true) (hnone : Since.read unbounded = .ok none)
    (hb : bounded.asksForRecords = true) {n : Int} (hn : Since.read bounded = .ok (some n)) :
    ∃ records,
      (m.respond unbounded).1 = .ofResponse unbounded (.json 200 (CardStatus.listToJson records)) ∧
      (-2 ^ 63 ≤ n ∧ n < 2 ^ 63 →
        ∃ later,
          (m.respond bounded).1 = .ofResponse bounded (.json 200 (CardStatus.listToJson later)) ∧
          later.Perm (records.filter fun s => n ≤ s.lastUpdated) ∧
          later.Pairwise (fun s t => s.name ≤ t.name)) ∧
      (¬ (-2 ^ 63 ≤ n ∧ n < 2 ^ 63) →
        (m.respond bounded).1 = .ofFailure (.store .oversizedInteger)) := by
  obtain ⟨connection, hconnect, -⟩ := found?_eq_some_iff.mp hdb
  have hfits : boundFits (some n) = true ↔ -2 ^ 63 ≤ n ∧ n < 2 ^ 63 := by
    rw [boundFits_iff]
    simp
  refine ⟨listing cards snapshots none, ?_, fun hin => ?_, fun hout => ?_⟩
  · rw [respond_fst_of_bound hu hconnect hnone, list_eq_listing hdb hholds rfl]
  · refine ⟨listing cards snapshots (some n), ?_, listing_some_perm cards snapshots n,
      pairwise_name_listing cards snapshots (some n)⟩
    rw [respond_fst_of_bound hb hconnect hn, list_eq_listing hdb hholds (hfits.mpr hin)]
  · rw [respond_fst_of_bound hb hconnect hn,
      list_of_not_boundFits hdb hholds fun h => hout (hfits.mp h)]

theorem respond_bounded_small :
    ∃ records later,
      ((small (-1)).respond (asking "")).1 =
        .ofResponse (asking "") (.json 200 (CardStatus.listToJson records)) ∧
      ((small (-1)).respond (asking "since=%2B96")).1 =
        .ofResponse (asking "since=%2B96") (.json 200 (CardStatus.listToJson later)) ∧
      later.Perm (records.filter fun s => 96 ≤ s.lastUpdated) ∧
      later.Pairwise (fun s t => s.name ≤ t.name) ∧
      ((small (-1)).respond (asking "since=-9223372036854775809")).1 =
        .ofFailure (.store .oversizedInteger) := by
  obtain ⟨db, hdb, hholds⟩ := exists_small_holds
  have hnone : Since.read (asking "") = .ok none := by decide +kernel
  obtain ⟨records, hreply, hin, -⟩ := respond_bounded hdb hholds (asking "")
    (asking "since=%2B96") (by decide +kernel) hnone (by decide +kernel) (n := 96)
    (by decide +kernel)
  obtain ⟨later, hlater, hperm, hnames⟩ := hin (by decide)
  obtain ⟨-, -, -, hout⟩ := respond_bounded hdb hholds (asking "")
    (asking "since=-9223372036854775809") (by decide +kernel) hnone (by decide +kernel)
    (n := -9223372036854775809) (by decide +kernel)
  exact ⟨records, later, hreply, hlater, hperm, hnames, hout (by decide)⟩

/-- On a well-typed store, an integer bound does not always have an answer of its own: the store
refuses those beyond 64 bits. -/
theorem not_forall_bound_served :
    ¬ ∀ (m : Monitor) (db : Database) (cards : List Card) (snapshots : List Snapshot)
      (r : Request) (n : Int), m.found? = some db → db.Holds cards snapshots →
      r.asksForRecords = true → Since.read r = .ok (some n) →
      (m.respond r).1.response.status = 200 := by
  intro h
  obtain ⟨db, hdb, hholds⟩ := exists_small_holds
  have hstatus := h (small (-1)) db smallCards smallSnapshots (asking "since=9223372036854775808")
    9223372036854775808 hdb hholds (by decide +kernel) (by decide +kernel)
  have hinternal :
      ((small (-1)).respond (asking "since=9223372036854775808")).1.response.status = 500 := by
    decide +kernel
  rw [hinternal] at hstatus
  cases hstatus

end Monitor

end CardHealth
