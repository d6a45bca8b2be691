import CardHealth.Proofs.Monitor.Origin
import CardHealth.Proofs.Since.Carrier

/-!
# Methods of the endpoint for records

Two lists say which methods the endpoint for records has: that of the route and that of the
cross-origin rules.  They have the same members (`mem_methods_iff`), so that a page is given leave
for a method (`givesLeave_preflight_iff`) exactly if a request with it is served
(`status_respond_eq_refused_iff`).  Which of these methods a request has makes no difference to its
answer (`respond_withMethod`).
-/

namespace CardHealth

open Http Store

/-- The same request with another method. -/
def Http.Request.withMethod (r : Request) (method : String) : Request :=
  { r with method }

/-- Whether a request is sent to the endpoint for records, whatever its method. -/
def Http.Request.isForRecords (r : Request) : Bool :=
  Endpoint.at? (Text.percentDecode r.path.toList) = some .data

/-- The items of a header field, which are divided by commas and may have blanks around them. -/
def Http.listedItems (value : String) : List String :=
  (value.toList.splitOnP (· == ',')).map fun item => String.ofList (Text.trim item)

/-- A preflight request for a method, and for nothing beside it that may be refused. -/
structure Http.Cors.AsksLeave (r : Request) (method : String) : Prop where
  isPreflight : isPreflight r = true
  method_eq : r.header? "access-control-request-method" = some method
  noNetwork : r.header? "access-control-request-private-network" = none

/-- A response with which a preflight request for a method succeeds. -/
structure Http.Cors.GivesLeave (r : Request) (response : Response) (method : String) : Prop where
  status_eq : response.status = 200
  /-- One field allows the origin of the page, or every origin. -/
  origin : ∃ origin, response.allowedOrigins = [origin] ∧
    (origin = "*" ∨ r.header? "origin" = some origin)
  /-- The method is listed. -/
  method : ∃ value ∈ response.valuesOf "access-control-allow-methods", method ∈ listedItems value
  /-- The header fields that the page wants to send are allowed. -/
  headers : ∀ names ∈ r.header? "access-control-request-headers",
    names ∈ response.valuesOf "access-control-allow-headers"

/-! ### The two lists -/

/-- **The lists have the same members**. -/
theorem Http.Cors.mem_methods_iff (method : String) :
    method ∈ Cors.methods ↔ method ∈ Endpoint.data.methods := by
  have hperm : Cors.methods.Perm Endpoint.data.methods := by decide
  exact hperm.mem_iff

theorem Http.Cors.refusals_of_asksLeave {r : Request} {method : String}
    (h : AsksLeave r method) :
    refusals r = if method ∈ Endpoint.data.methods then [] else ["method"] := by
  unfold refusals
  rw [h.method_eq, h.noNetwork, Option.getD_some]
  simp [mem_methods_iff]

/-- The list of methods in a response is read back. -/
theorem Http.Cors.listedItems_methods :
    listedItems (String.intercalate ", " Cors.methods) = Cors.methods := by
  decide

theorem Http.Cors.givesLeave_preflight {r : Request} {method : String} (h : AsksLeave r method)
    (hmethod : method ∈ Endpoint.data.methods) : GivesLeave r (preflight r) method := by
  have hpreflight : preflight r = (Response.plain 200 "OK").withHeaders (preflightHeaders r) := by
    unfold preflight
    rw [refusals_of_asksLeave h, if_pos hmethod]
  rw [hpreflight]
  unfold preflightHeaders
  refine ⟨rfl, ?_, ?_, ?_⟩
  · refine ⟨"*", ?_, .inl rfl⟩
    cases r.header? "access-control-request-headers" <;> rfl
  · refine ⟨String.intercalate ", " Cors.methods, ?_, ?_⟩
    · cases r.header? "access-control-request-headers" <;> exact List.mem_singleton_self _
    · rw [listedItems_methods]
      exact (mem_methods_iff method).mpr hmethod
  · intro names hnames
    rw [Option.mem_def.mp hnames]
    exact List.mem_singleton_self names

/-- **Leave is given for the methods of the endpoint**, and for no others. -/
theorem Http.Cors.givesLeave_preflight_iff {r : Request} {method : String}
    (h : AsksLeave r method) :
    GivesLeave r (preflight r) method ↔ method ∈ Endpoint.data.methods := by
  refine ⟨fun hleave => ?_, givesLeave_preflight h⟩
  by_contra hmethod
  have hstatus : (preflight r).status = 400 := by
    unfold preflight
    rw [refusals_of_asksLeave h, if_neg hmethod]
    rfl
  rw [hleave.status_eq] at hstatus
  exact absurd hstatus (by decide)

namespace Monitor

variable {m : Monitor} {r : Request} {method : String}

/-! ### Requests with any method -/

theorem asksForRecords_iff :
    r.asksForRecords = true ↔ r.isForRecords = true ∧ r.method ∈ Endpoint.data.methods := by
  unfold Request.asksForRecords Request.isForRecords
  rw [Bool.and_eq_true, List.contains_iff_mem]

/-- The statuses of answers to requests for records. -/
theorem status_serveData_mem (m : Monitor) (r : Request) :
    (m.serveData r).1.response.status ∈ [200, 400, 422, 500] := by
  unfold serveData
  split
  · exact (by decide : 500 ∈ [200, 400, 422, 500])
  · exact (by decide : 500 ∈ [200, 400, 422, 500])
  · dsimp only
    unfold serveRecords
    split
    · exact List.mem_cons_of_mem _ (status_sinceReply_mem r _)
    · split
      · exact (by decide : 200 ∈ [200, 400, 422, 500])
      · exact (by decide : 500 ∈ [200, 400, 422, 500])

/-- A request with another method is refused, unless it asks for leave. -/
theorem respond_of_not_mem (m : Monitor) (hr : r.isForRecords = true)
    (hpreflight : Cors.isPreflight r = false) (hmethod : r.method ∉ Endpoint.data.methods) :
    m.respond r = (.ofResponse r (methodRefusedResponse .data), m) := by
  have hfind : Route.find r.method (Text.percentDecode r.path.toList) = .methodRefused .data := by
    unfold Route.find
    rw [of_decide_eq_true hr]
    exact if_neg (by simpa using hmethod)
  unfold respond
  rw [hpreflight, hfind]
  rfl

/-- **A method is refused exactly if it is not one of the endpoint's**. -/
theorem status_respond_eq_refused_iff (m : Monitor) (hr : r.isForRecords = true)
    (hpreflight : Cors.isPreflight r = false) :
    (m.respond r).1.response.status = 405 ↔ r.method ∉ Endpoint.data.methods := by
  by_cases hmethod : r.method ∈ Endpoint.data.methods
  · rw [respond_of_asksForRecords m (asksForRecords_iff.mpr ⟨hr, hmethod⟩)]
    refine iff_of_false (fun hstatus => ?_) (not_not_intro hmethod)
    have hmem := m.status_serveData_mem r
    rw [hstatus] at hmem
    exact absurd hmem (by decide)
  · rw [respond_of_not_mem m hr hpreflight hmethod]
    exact iff_of_true rfl hmethod

theorem respond_of_isPreflight (m : Monitor) (h : Cors.isPreflight r = true) :
    m.respond r = (⟨Cors.preflight r, none⟩, m) :=
  if_pos h

/-! ### Requests with different methods -/

theorem read_withMethod (r : Request) (method : String) :
    Since.read (r.withMethod method) = Since.read r := by
  have hsource : Since.source? (r.withMethod method) = Since.source? r :=
    Since.source?_congr rfl rfl rfl
  rw [Since.read_eq_resolve, Since.read_eq_resolve, hsource]

theorem serveRecords_withMethod (m : Monitor) (r : Request) (method : String)
    (connection : Connection) :
    m.serveRecords (r.withMethod method) connection = m.serveRecords r connection := by
  unfold serveRecords
  rw [read_withMethod]
  rfl

theorem serveData_withMethod (m : Monitor) (r : Request) (method : String) :
    m.serveData (r.withMethod method) = m.serveData r := by
  unfold serveData
  simp only [serveRecords_withMethod]
  rfl

/-- **The methods of the endpoint are served alike**: the answer, and what the service becomes, are
those of every other method. -/
theorem respond_withMethod (m : Monitor) (hr : r.isForRecords = true)
    (hmethod : method ∈ Endpoint.data.methods) :
    m.respond (r.withMethod method) = m.serveData r := by
  have hserved : (r.withMethod method).asksForRecords = true :=
    asksForRecords_iff.mpr ⟨hr, hmethod⟩
  rw [respond_of_asksForRecords m hserved, serveData_withMethod]

/-- The bound of a request with any method may come in any way in which a text can be carried, in a
form among them. -/
theorem respond_fst_of_carries (m : Monitor) (hr : r.isForRecords = true)
    (hmethod : r.method ∈ Endpoint.data.methods) {connection : Connection}
    (hconnect : m.connect.1 = .ok connection) {v : String} {n : Int} (hv : Since.Carries v r)
    (hn : Numeral.Denotes v.toList n) :
    (m.respond r).1 =
      match (m.list (some n)).1 with
      | .ok records => .ofResponse r (.json 200 (CardStatus.listToJson records))
      | .error f => .ofFailure f := by
  have hsince : Since.read r = .ok (some n) := by
    rw [Since.read_eq_of_carries hv, Since.toInt_text_eq_ok_iff.mpr hn]
    rfl
  exact respond_fst_of_bound (asksForRecords_iff.mpr ⟨hr, hmethod⟩) hconnect hsince

/-! ### All methods -/

/-- **Leave is given for the methods that are served, and these are served alike**.  A preflight
request for a method succeeds exactly if a plain request with that method is not refused for it, on
whatever states of the service and for whatever origin.  Two requests that differ in a served method
alone have the same answer and leave the same state behind; and whatever the method is, a bound
counts that comes in the query or in a form. -/
theorem served_methods_agree :
    (∀ (m other : Monitor) (preflight plain : Request), Cors.AsksLeave preflight plain.method →
      plain.isForRecords = true → Cors.isPreflight plain = false →
      (Cors.GivesLeave preflight (m.respond preflight).1.response plain.method ↔
        (other.respond plain).1.response.status ≠ 405)) ∧
    (∀ (m : Monitor) (r : Request) (a b : String), r.isForRecords = true →
      a ∈ Endpoint.data.methods → b ∈ Endpoint.data.methods →
      m.respond (r.withMethod a) = m.respond (r.withMethod b)) ∧
    (∀ (m : Monitor) (r : Request) (connection : Connection) (v : String) (n : Int),
      r.isForRecords = true → r.method ∈ Endpoint.data.methods →
      m.connect.1 = .ok connection → Since.Carries v r → Numeral.Denotes v.toList n →
      (m.respond r).1 =
        match (m.list (some n)).1 with
        | .ok records => .ofResponse r (.json 200 (CardStatus.listToJson records))
        | .error f => .ofFailure f) := by
  refine ⟨fun m other preflight plain hleave hplain hpreflight => ?_, fun m r a b hr ha hb => ?_,
    fun m r connection v n hr hmethod hconnect hv hn =>
      m.respond_fst_of_carries hr hmethod hconnect hv hn⟩
  · rw [m.respond_of_isPreflight hleave.isPreflight, Ne,
      other.status_respond_eq_refused_iff hplain hpreflight, not_not]
    exact Cors.givesLeave_preflight_iff hleave
  · rw [m.respond_withMethod hr ha, m.respond_withMethod hr hb]

/-- A preflight request of a page for a method. -/
def askingLeave (method : String) : Request :=
  ⟨"OPTIONS", "/api/data", [],
    [("origin", "http://page.example"), ("access-control-request-method", method)], []⟩

theorem asksLeave_askingLeave (method : String) : Cors.AsksLeave (askingLeave method) method :=
  ⟨rfl, rfl, rfl⟩

/-- A request to delete, with a bound in its form. -/
def deleting : Request :=
  (Since.sending Since.urlEncodedType (Bytes.ofLatin1 "since=96")).withMethod "DELETE"

theorem served_methods_agree_small :
    Cors.GivesLeave (askingLeave "PATCH")
      ((small (-1)).respond (askingLeave "PATCH")).1.response "PATCH" ∧
    ¬ Cors.GivesLeave (askingLeave "patch")
      ((small (-1)).respond (askingLeave "patch")).1.response "patch" ∧
    (small (-1)).respond (deleting.withMethod "HEAD") =
      (small (-1)).respond (deleting.withMethod "DELETE") ∧
    ((small (-1)).respond deleting).1 = .ofResponse deleting
      (.json 200 (CardStatus.listToJson (listing smallCards smallSnapshots (some 96)))) := by
  obtain ⟨db, hdb, hholds⟩ := exists_small_holds
  obtain ⟨connection, hconnect, -⟩ := found?_eq_some_iff.mp hdb
  obtain ⟨hleave, halike, hcarried⟩ := served_methods_agree
  have hplain : (asking "").isForRecords = true := by decide +kernel
  have hpreflight : ∀ method, Cors.isPreflight ((asking "").withMethod method) = false := by
    intro method
    simp [Cors.isPreflight, Cors.hasOrigin, Request.header?, Request.withMethod, asking]
  refine ⟨?_, fun hgiven => ?_, ?_, ?_⟩
  · exact (hleave (small (-1)) smallStart (askingLeave "PATCH") ((asking "").withMethod "PATCH")
      (asksLeave_askingLeave _) hplain (hpreflight _)).mpr (by decide +kernel)
  · exact (hleave (small (-1)) smallStart (askingLeave "patch") ((asking "").withMethod "patch")
      (asksLeave_askingLeave _) hplain (hpreflight _)).mp hgiven (by decide +kernel)
  · exact halike (small (-1)) deleting "HEAD" "DELETE" (by decide +kernel) (by decide)
      (by decide)
  · have hform : Since.Carries "96" deleting := by
      have htext : Bytes.toLatin1 deleting.body = Since.escapedField "96" := by decide
      exact .urlEncoded rfl rfl (htext ▸ Since.holds_escapedField "96") (by decide)
    have hreply := hcarried (small (-1)) deleting connection "96" 96 (by decide +kernel)
      (by decide) hconnect hform (Numeral.read_eq_ok_iff.mp (by decide))
    rw [list_eq_listing hdb hholds (by decide)] at hreply
    exact hreply

end Monitor

end CardHealth
