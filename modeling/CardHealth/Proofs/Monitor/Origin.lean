import CardHealth.Proofs.Monitor.Data

/-!
# Responses to pages of other origins

A page may read every response to its requests, whatever the path, the method and the outcome, with
one exception: the plain response that goes out before a failure is raised carries no mark
(`origin_allowed_unless_raised`).  Only requests for records can end so, and `Unhandled` says which
failures these are.
-/

namespace CardHealth

open Http Store

/-- The values of the header fields with a name. -/
def Http.Response.valuesOf (response : Response) (name : String) : List String :=
  (response.headers.filter fun h => h.1 == name).map (·.2)

/-- The origins whose pages may read a response, one for each header field that says so. -/
def Http.Response.allowedOrigins (response : Response) : List String :=
  response.valuesOf "access-control-allow-origin"

/-! ### Marks -/

section Marks

variable {r : Request}

/-- A marked response allows every origin, beside those that it allowed before. -/
theorem allowedOrigins_decorate (horigin : Cors.hasOrigin r = true) (response : Response) :
    (Cors.decorate r response).allowedOrigins = response.allowedOrigins ++ ["*"] := by
  simp [Response.allowedOrigins, Response.valuesOf, Cors.decorate, Response.withHeaders, horigin,
    Cors.allowEveryOrigin]

@[simp] theorem allowedOrigins_json (status : Nat) (content : Json) :
    (Response.json status content).allowedOrigins = [] := by
  simp [Response.allowedOrigins, Response.valuesOf, Response.json, Response.ofBody]

@[simp] theorem allowedOrigins_detail (status : Nat) (message : String) :
    (Response.detail status message).allowedOrigins = [] :=
  allowedOrigins_json status _

@[simp] theorem allowedOrigins_redirect (location : String) :
    (Response.redirect location).allowedOrigins = [] := by
  simp [Response.allowedOrigins, Response.valuesOf, Response.redirect]

@[simp] theorem allowedOrigins_methodRefusedResponse (endpoint : Endpoint) :
    (Monitor.methodRefusedResponse endpoint).allowedOrigins = [] := by
  simp [Response.allowedOrigins, Response.valuesOf, Monitor.methodRefusedResponse,
    Response.withHeaders, Response.detail, Response.json, Response.ofBody]

theorem allowedOrigins_internalError : Response.internalError.allowedOrigins = [] := by
  simp [Response.allowedOrigins, Response.valuesOf, Response.internalError, Response.plain,
    Response.ofBody]

/-- An answer that is marked for the page that asks, unless it is the plain response that goes out
before a failure is raised. -/
inductive Reply.IsMarked (r : Request) : Reply → Prop where
  | response {response : Response} (h : response.allowedOrigins = []) :
    IsMarked r (.ofResponse r response)
  | failure (f : Failure) : IsMarked r (.ofFailure f)

theorem Reply.IsMarked.allowedOrigins_eq {reply : Reply} (h : reply.IsMarked r)
    (horigin : Cors.hasOrigin r = true) :
    reply.response.allowedOrigins = if reply.raised.isNone then ["*"] else [] := by
  cases h with
  | response hnone =>
    show (Cors.decorate r _).allowedOrigins = ["*"]
    rw [allowedOrigins_decorate horigin, hnone, List.nil_append]
  | failure f => exact allowedOrigins_internalError

end Marks

namespace Monitor

variable {m : Monitor} {r : Request}

/-! ### Answers -/

theorem sinceReply_isMarked (r : Request) (e : Since.Error) : (sinceReply r e).IsMarked r := by
  cases e with
  | notAnInteger => exact .response (allowedOrigins_detail _ _)
  | form error =>
    cases error with
    | mixedParts firstIsNumbered => exact .failure _
    | _ => exact .response (allowedOrigins_detail _ _)

theorem serveRecords_isMarked (m : Monitor) (r : Request) (connection : Connection) :
    (m.serveRecords r connection).1.IsMarked r := by
  unfold serveRecords
  split
  · exact sinceReply_isMarked r _
  · split
    · exact .response (allowedOrigins_json _ _)
    · exact .failure _

theorem serveData_isMarked (m : Monitor) (r : Request) : (m.serveData r).1.IsMarked r := by
  unfold serveData
  split
  · exact .response (allowedOrigins_json _ _)
  · exact .failure _
  · exact serveRecords_isMarked _ _ _

/-- **Every answer but that to a preflight request is marked or raises a failure**, on every path
and with every method. -/
theorem respond_isMarked (m : Monitor) (hpreflight : Cors.isPreflight r = false) :
    (m.respond r).1.IsMarked r := by
  unfold respond
  rw [hpreflight]
  cases Route.find r.method (Text.percentDecode r.path.toList) with
  | handled endpoint =>
    cases endpoint with
    | root => exact .response (allowedOrigins_json _ _)
    | health => exact .response (allowedOrigins_json _ _)
    | data => exact m.serveData_isMarked r
  | methodRefused endpoint => exact .response (allowedOrigins_methodRefusedResponse endpoint)
  | moved path => exact .response (allowedOrigins_redirect _)
  | notFound => exact .response (allowedOrigins_detail _ _)

/-! ### Failures that are raised -/

/-- The failures of a request for records that no response tells of. -/
inductive Unhandled (m : Monitor) (r : Request) : Failure → Prop where
  /-- There is no connection, and not because the database does not answer. -/
  | connection {f : Failure} (hout : m.outage? = none) (h : m.connect.1 = .error f) :
    Unhandled m r f
  /-- The header of the form cannot be taken apart. -/
  | form {connection : Connection} {firstIsNumbered : Bool}
    (hconnect : m.connect.1 = .ok connection)
    (h : Since.read r = .error (.form (.mixedParts firstIsNumbered))) :
    Unhandled m r (.form (.mixedParts firstIsNumbered))
  /-- The query fails, or a row is no record. -/
  | list {connection : Connection} {since : Option Int} {f : Failure}
    (hconnect : m.connect.1 = .ok connection) (hsince : Since.read r = .ok since)
    (h : (m.list since).1 = .error f) : Unhandled m r f

theorem asksForRecords_of_find
    (h : Route.find r.method (Text.percentDecode r.path.toList) = .handled .data) :
    r.asksForRecords = true := by
  unfold Route.find at h
  split at h
  · rename_i endpoint hpath
    split at h
    · rename_i hmethod
      obtain rfl := Route.handled.inj h
      exact Bool.and_eq_true_iff.mpr ⟨decide_eq_true hpath, hmethod⟩
    · cases h
  · split at h <;> cases h

/-- Nothing is raised after the answer to any other request. -/
theorem raised_of_not_asksForRecords (m : Monitor) (hr : ¬ r.asksForRecords = true) :
    (m.respond r).1.raised = none := by
  unfold respond
  split
  · rfl
  · cases hfind : Route.find r.method (Text.percentDecode r.path.toList) with
    | handled endpoint =>
      cases endpoint with
      | root => rfl
      | health => rfl
      | data => exact absurd (asksForRecords_of_find hfind) hr
    | _ => rfl

theorem exists_of_raised_sinceReply {e : Since.Error} {f : Failure}
    (h : (sinceReply r e).raised = some f) :
    ∃ firstIsNumbered, e = .form (.mixedParts firstIsNumbered) ∧
      f = .form (.mixedParts firstIsNumbered) := by
  cases e with
  | notAnInteger => cases h
  | form error =>
    cases error with
    | mixedParts firstIsNumbered => exact ⟨firstIsNumbered, rfl, (Option.some.inj h).symm⟩
    | _ => cases h

/-- What is raised after the answer to a request for records has no response of its own. -/
theorem unhandled_of_raised (hr : r.asksForRecords = true) {f : Failure}
    (h : (m.respond r).1.raised = some f) : m.Unhandled r f := by
  cases hout : m.outage? with
  | some outage =>
    rw [respond_of_outage? hr hout] at h
    cases h
  | none =>
    cases hconnect : m.connect.1 with
    | error g =>
      rw [respond_of_failure hr hout hconnect] at h
      obtain rfl := Option.some.inj h
      exact .connection hout hconnect
    | ok connection =>
      cases hsince : Since.read r with
      | error e =>
        rw [respond_of_connect hr hconnect, serveRecords_of_error hsince] at h
        obtain ⟨firstIsNumbered, rfl, rfl⟩ := exists_of_raised_sinceReply h
        exact .form hconnect hsince
      | ok since =>
        rw [respond_fst_of_bound hr hconnect hsince] at h
        split at h
        · cases h
        · rename_i hlist
          obtain rfl := Option.some.inj h
          exact .list hconnect hsince hlist

theorem Unhandled.respond_fst_eq {f : Failure} (h : m.Unhandled r f)
    (hr : r.asksForRecords = true) : (m.respond r).1 = .ofFailure f := by
  cases h with
  | connection hout hconnect => rw [respond_of_failure hr hout hconnect]
  | form hconnect hsince =>
    rw [respond_of_connect hr hconnect, serveRecords_of_error hsince]
    rfl
  | list hconnect hsince hlist => rw [respond_fst_of_bound hr hconnect hsince, hlist]

theorem Unhandled.raised_eq {f : Failure} (h : m.Unhandled r f) (hr : r.asksForRecords = true) :
    (m.respond r).1.raised = some f := by
  rw [h.respond_fst_eq hr]
  rfl

/-! ### Requests of pages -/

/-- **Which responses a page may read**.  A response to a request of a page allows every origin,
once, unless a failure is raised after it; then it is the plain response, and allows none.  What is
raised are the failures of requests for records that no response tells of, and nothing else. -/
theorem origin_allowed_unless_raised (m : Monitor) (r : Request)
    (horigin : Cors.hasOrigin r = true) (hpreflight : Cors.isPreflight r = false) :
    ((m.respond r).1.raised = none → (m.respond r).1.response.allowedOrigins = ["*"]) ∧
    ((m.respond r).1.raised ≠ none →
      (m.respond r).1.response = .internalError ∧
        (m.respond r).1.response.allowedOrigins = []) ∧
    ∀ f, (m.respond r).1.raised = some f ↔ r.asksForRecords = true ∧ m.Unhandled r f := by
  have hmarked := m.respond_isMarked hpreflight
  have horigins := hmarked.allowedOrigins_eq horigin
  refine ⟨fun hraised => ?_, fun hraised => ?_, fun f => ?_⟩
  · rw [horigins, hraised]
    rfl
  · cases hreply : (m.respond r).1 with
    | mk response raised =>
      rw [hreply] at hmarked hraised
      cases hmarked with
      | response _ => exact absurd rfl hraised
      | failure f => exact ⟨rfl, allowedOrigins_internalError⟩
  · refine ⟨fun hraised => ?_, fun ⟨hr, hunhandled⟩ => hunhandled.raised_eq hr⟩
    by_cases hr : r.asksForRecords = true
    · exact ⟨hr, unhandled_of_raised hr hraised⟩
    · rw [raised_of_not_asksForRecords m hr] at hraised
      cases hraised

/-- A request of a page for records with this query. -/
def askingFromPage (query : String) : Request :=
  { asking query with headers := [("origin", "http://page.example")] }

theorem origin_allowed_unless_raised_small :
    ((start {}).respond (askingFromPage "")).1.response.allowedOrigins = ["*"] ∧
    ((small (-1)).respond (askingFromPage "since=abc")).1.response.allowedOrigins = ["*"] ∧
    (smallStart.respond (askingFromPage "")).1.response.allowedOrigins = [] ∧
    ∃ f, smallStart.Unhandled (askingFromPage "") f := by
  have hraised : (smallStart.respond (askingFromPage "")).1.raised ≠ none := by decide +kernel
  obtain ⟨-, hplain, hiff⟩ :=
    origin_allowed_unless_raised smallStart (askingFromPage "") (by decide) (by decide)
  refine ⟨?_, ?_, (hplain hraised).2, ?_⟩
  · exact (origin_allowed_unless_raised (start {}) (askingFromPage "") (by decide)
      (by decide)).1 (by decide +kernel)
  · exact (origin_allowed_unless_raised (small (-1)) (askingFromPage "since=abc") (by decide)
      (by decide)).1 (by decide +kernel)
  · obtain ⟨f, hf⟩ := Option.ne_none_iff_exists'.mp hraised
    exact ⟨f, ((hiff f).mp hf).2⟩

/-- Not every response to a page can be read by it: without tables the query fails, and the plain
response that goes out before that failure is raised carries no mark. -/
theorem not_forall_origin_allowed :
    ¬ ∀ (m : Monitor) (r : Request), Cors.hasOrigin r = true → Cors.isPreflight r = false →
      Cors.allowEveryOrigin ∈ (m.respond r).1.response.headers := by
  intro h
  have hmarked := h smallStart (askingFromPage "") (by decide) (by decide)
  revert hmarked
  decide +kernel

end Monitor

end CardHealth
