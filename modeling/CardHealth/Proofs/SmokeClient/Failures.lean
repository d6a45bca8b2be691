import CardHealth.Proofs.Monitor.Origin
import CardHealth.Proofs.SmokeClient.Requests

/-!
# Runs against a failing service

A request for all records fails in two ways (`outage_or_unhandled_of_status_ne`).  If the database
does not answer, the response is a JSON object, and the client shows it and ends with exit status 1.
If a failure is raised, the response is plain text; the client takes it for JSON all the same, and
is stopped before it has shown anything of it (`run_of_failed_answer`).
-/

namespace CardHealth.SmokeClient

open Http Monitor

variable {m : Monitor} {base : Url} {raises : Bool}

/-! ### Failing answers -/

/-- **Why there is no list**: the database does not answer, or a failure is raised. -/
theorem outage_or_unhandled_of_status_ne
    (hstatus : (m.respond allRecords).1.response.status ≠ 200) :
    (∃ outage, m.outage? = some outage) ∨
      m.outage? = none ∧ ∃ f, m.Unhandled allRecords f := by
  cases hout : m.outage? with
  | some outage => exact .inl ⟨outage, rfl⟩
  | none =>
    -- The request has no bound that could be refused, so only the connection and the list can fail.
    refine .inr ⟨rfl, ?_⟩
    cases hconnect : m.connect.1 with
    | error f => exact ⟨f, .connection hout hconnect⟩
    | ok connection =>
      cases hlist : (m.list none).1 with
      | error f => exact ⟨f, .list hconnect read_allRecords hlist⟩
      | ok records =>
        rw [respond_fst_of_bound asksForRecords_allRecords hconnect read_allRecords, hlist]
          at hstatus
        exact absurd rfl hstatus

/-! ### Runs -/

/-- What the service says about an outage. -/
def outageNotice : Json :=
  NoticeKind.error.toJson Failure.unavailable.message

/-- The line about an outage. -/
def outageLine : String :=
  "Data request failed 500 \x7b'error': 'Unable to connect to the MySQL server.'\x7d\n"

theorem outageLine_eq : s!"Data request failed {500} {outageNotice.display}\n" = outageLine := by
  decide +kernel

/-- An outage is shown with its status. -/
theorem run_of_outage? (h : FindsService m base) {outage : Engine × String}
    (hout : m.outage? = some outage) (clock : Clock) :
    (run m raises clock).1 = ⟨healthLine ++ outageLine, .ok 1⟩ := by
  have hreply : m.respond allRecords =
      (.ofResponse allRecords (.json 500 outageNotice), (m.respond allRecords).2) := by
    rw [respond_of_outage? asksForRecords_allRecords hout]
    rfl
  have hdoubles : outageNotice.HasDoubles := ⟨trivial, trivial⟩
  -- Not `rw`, which would try to evaluate the lines.
  rewrite [run_eq h hreply (.inl rfl), content_ofResponse_json hdoubles, ← outageLine_eq]
  rfl

/-- The response to a request that could not be handled is no JSON text. -/
theorem content_ofFailure (f : Failure) :
    content (Reply.ofFailure f).response = .error .notJson := by
  have hread : Json.read? Response.internalError.body = none := by decide +kernel
  have hbody : (Reply.ofFailure f).response.body = Response.internalError.body := rfl
  rw [content, hbody, hread]

/-- After any other failure, the client is stopped by the response. -/
theorem run_of_unhandled (h : FindsService m base) {f : Failure}
    (hf : m.Unhandled allRecords f) (clock : Clock) :
    (run m false clock).1 = ⟨healthLine, .error .notJson⟩ := by
  have hreply : m.respond allRecords = (.ofFailure f, (m.respond allRecords).2) :=
    Prod.ext (hf.respond_fst_eq asksForRecords_allRecords) rfl
  rw [run_eq h hreply (.inr rfl), content_ofFailure]

/-- **A run after a failing answer to the request for all records**, with a server that answers
unhandled failures itself.  The status is 500.  An outage is shown with this status, and the exit
status is 1.  After any other failure the client is stopped, since the response is no JSON text,
and shows nothing of it. -/
theorem run_of_failed_answer (h : FindsService m base) (clock : Clock)
    (hstatus : (m.respond allRecords).1.response.status ≠ 200) :
    (m.respond allRecords).1.response.status = 500 ∧
    ((m.respond allRecords).1.raised = none →
      m.outage?.isSome = true ∧ (run m false clock).1 = ⟨healthLine ++ outageLine, .ok 1⟩) ∧
    (∀ f, (m.respond allRecords).1.raised = some f →
      m.Unhandled allRecords f ∧ (run m false clock).1 = ⟨healthLine, .error .notJson⟩) := by
  have hr := asksForRecords_allRecords
  rcases outage_or_unhandled_of_status_ne hstatus with ⟨outage, hout⟩ | ⟨hout, f, hf⟩
  · rw [respond_of_outage? hr hout]
    refine ⟨rfl, fun _ => ⟨?_, run_of_outage? h hout clock⟩, fun f hraised => ?_⟩
    · rw [hout]
      rfl
    · cases hraised
  · rw [hf.respond_fst_eq hr]
    refine ⟨rfl, fun hraised => ?_, ?_⟩
    · cases hraised
    · rintro _ ⟨⟩
      exact ⟨hf, run_of_unhandled h hf clock⟩

/-- Without tables the query fails. -/
theorem exists_unhandled_smallStart : ∃ f, smallStart.Unhandled allRecords f := by
  have hraised : (smallStart.respond allRecords).1.raised ≠ none := by decide +kernel
  obtain ⟨f, hf⟩ := Option.ne_none_iff_exists'.mp hraised
  exact ⟨f, unhandled_of_raised asksForRecords_allRecords hf⟩

theorem status_ne_of_unhandled {f : Failure} (hf : m.Unhandled allRecords f) :
    (m.respond allRecords).1.response.status ≠ 200 := by
  rw [hf.respond_fst_eq asksForRecords_allRecords]
  exact (by decide : (500 : Nat) ≠ 200)

theorem run_of_failed_answer_small :
    (run (start {}) false (.whole 0)).1 = ⟨healthLine ++ outageLine, .ok 1⟩ ∧
    (run smallStart false (.whole 0)).1 = ⟨healthLine, .error .notJson⟩ := by
  obtain ⟨base, hbase⟩ := exists_findsService (m := start {}) (by decide)
  obtain ⟨other, hother⟩ := exists_findsService (m := smallStart) (by decide)
  obtain ⟨f, hf⟩ := exists_unhandled_smallStart
  constructor
  · exact ((run_of_failed_answer hbase (.whole 0) (by decide +kernel)).2.1 (by decide +kernel)).2
  · exact ((run_of_failed_answer hother (.whole 0) (status_ne_of_unhandled hf)).2.2 f
      (hf.raised_eq asksForRecords_allRecords)).2

/-- Not every failing answer is shown: without tables the query fails, and the client is stopped by
the plain response. -/
theorem not_forall_failed_answer_shown :
    ¬ ∀ (m : Monitor) (base : Url) (clock : Clock), FindsService m base →
      (m.respond allRecords).1.response.status ≠ 200 → ∃ shown : String,
        (run m false clock).1.printed = healthLine ++
          s!"Data request failed {(m.respond allRecords).1.response.status} {shown}\n" ∧
        (run m false clock).1.ending = .ok 1 := by
  intro h
  obtain ⟨base, hbase⟩ := exists_findsService (m := smallStart) (by decide)
  obtain ⟨f, hf⟩ := exists_unhandled_smallStart
  obtain ⟨shown, -, hending⟩ := h smallStart base (.whole 0) hbase (status_ne_of_unhandled hf)
  rw [run_of_unhandled hbase hf] at hending
  cases hending

end CardHealth.SmokeClient
