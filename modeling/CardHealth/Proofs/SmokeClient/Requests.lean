import CardHealth.Proofs.Json.RoundTrip
import CardHealth.Proofs.Monitor.Data
import CardHealth.Proofs.Since.Carrier
import CardHealth.SmokeClient

/-!
# What the smoke client asks for

With a base address whose paths are those of the service, the client asks for its health, for all
records and for the recent ones.  Its first question always has the same answer, and nothing is
different after it; so a run begins with the same line and is decided by what the service answers to
the request for all records (`run_eq`).
-/

namespace CardHealth

open Http

namespace Http.Url

/-- A base address, in its normal form, that leads to the paths of the service. -/
structure IsServiceBase (base : Url) : Prop where
  scheme : base.scheme = "http" ∨ base.scheme = "https"
  authority : normalAuthority base.scheme base.authority.toList = .ok base.authority
  path : base.path = "/api/"
  query : base.query = none
  fragment : base.fragment = none

variable {base : Url}

/-! ### Addresses below a base address -/

/-- A path below the base address is this path of the service, which is in its normal form. -/
structure LeadsTo (path fullPath : String) : Prop where
  full_eq : "/api/" ++ String.ofList (path.toList.dropWhile (· == '/')) = fullPath
  normalPath_eq : ∀ hasAuthority,
    normalPath false hasAuthority fullPath.toList = .ok fullPath
  noQuery : '?' ∉ fullPath.toList
  isEmpty_eq : fullPath.isEmpty = false

theorem leadsTo_health : LeadsTo "/health" "/api/health" where
  full_eq := by decide
  normalPath_eq := by decide +kernel
  noQuery := by decide
  isEmpty_eq := by decide

theorem leadsTo_data : LeadsTo "/data" "/api/data" where
  full_eq := by decide
  normalPath_eq := by decide +kernel
  noQuery := by decide
  isEmpty_eq := by decide

theorem isEmpty_scheme {u : Url} (h : u.scheme = "http" ∨ u.scheme = "https") :
    u.scheme.isEmpty = false := by
  rcases h with hs | hs <;> rw [hs] <;> decide

/-- A path below the base address takes the place of its path. -/
theorem IsServiceBase.join_eq (h : base.IsServiceBase) {path fullPath : String}
    (hpath : LeadsTo path fullPath) : base.join path = .ok { base with path := fullPath } := by
  have htarget : base.target ++ String.ofList (path.toList.dropWhile (· == '/')) = fullPath := by
    rw [← hpath.full_eq, target, h.path, h.query]
    rfl
  have hscheme : String.ofList (base.scheme.toList.map Char.toLower) = base.scheme := by
    rcases h.scheme with hs | hs <;> rw [hs] <;> decide
  rw [join, htarget, withTarget, splitAtMark, Text.takeWhile_bne_of_not_mem hpath.noQuery,
    Text.dropWhile_bne_of_not_mem hpath.noQuery, h.fragment]
  -- Scheme, authority and path are in their normal forms, and there is nothing else.
  dsimp only [ofComponents]
  rw [hscheme, h.authority]
  dsimp only [bind, Except.bind]
  rw [isEmpty_scheme h.scheme, Bool.false_and, hpath.normalPath_eq]
  obtain ⟨scheme, authority, basePath, query, fragment⟩ := base
  obtain rfl : query = none := h.query
  obtain rfl : fragment = none := h.fragment
  rfl

/-- What follows the scheme does not change what kind of address it is. -/
theorem hasKind_of_scheme {u : Url} (h : u.scheme = "http" ∨ u.scheme = "https") :
    u.hasKind = true := by
  obtain ⟨rest, hrest⟩ : ∃ rest, u.render.toList = u.scheme.toList ++ ':' :: rest := by
    rw [render, isEmpty_scheme h, if_neg Bool.false_ne_true]
    simp [String.toList_append]
  have hchars : u.scheme.toList.all (fun c => c != '/' && c != ':') = true := by
    rcases h with hs | hs <;> rw [hs] <;> decide
  rw [List.all_eq_true] at hchars
  have hmark : ∀ c ∈ (':' :: rest).head?, (c != '/' && c != ':') = false := by
    rintro _ ⟨⟩
    decide
  rw [hasKind, hrest, Text.takeWhile_append_of_head hchars hmark,
    Text.dropWhile_append_of_head hchars hmark]
  rcases h with hs | hs <;> rw [hs] <;> rfl

end Http.Url

namespace SmokeClient

/-- The client has this base address, and it leads to the service. -/
structure FindsService (m : Monitor) (base : Url) : Prop where
  parseBase_eq :
    Url.parseBase ((m.host.valueOf? addressVariable).getD defaultAddress) = .ok base
  isServiceBase : base.IsServiceBase

/-- A client that is told no address finds the service. -/
theorem exists_findsService {m : Monitor} (h : m.host.valueOf? addressVariable = none) :
    ∃ base, FindsService m base := by
  refine ⟨⟨"http", "127.0.0.1:8787", "/api/", none, none⟩, ?_, ?_⟩
  · rw [h]
    decide +kernel
  · exact ⟨.inl rfl, by decide +kernel, rfl, rfl, rfl⟩

variable {m : Monitor} {raises : Bool} {base : Url}

/-! ### Requests -/

/-- The request for all records. -/
def allRecords : Request :=
  .ofPath "/api/data"

/-- The request for the records that are not older than a bound. -/
def recordsSince (n : Int) : Request :=
  { allRecords with query := Text.encodeUtf8 s!"since={Numeral.render n}" }

/-- The address of these records. -/
def recentUrl (base : Url) (n : Int) : Url :=
  { base with path := "/api/data", query := some s!"since={Numeral.render n}" }

theorem request_recentUrl (base : Url) (n : Int) : (recentUrl base n).request = recordsSince n := by
  rw [Url.request, recentUrl, Url.leadsTo_data.isEmpty_eq]
  rfl

theorem asksForRecords_allRecords : allRecords.asksForRecords = true := by
  decide +kernel

theorem asksForRecords_recordsSince (n : Int) : (recordsSince n).asksForRecords = true :=
  asksForRecords_allRecords

/-- The request for all records has no bound. -/
theorem read_allRecords : Since.read allRecords = .ok none := by
  decide +kernel

theorem needNoEscape_fieldName : Text.NeedNoEscape Since.fieldName.toList := by
  have hchars : Since.fieldName.toList.all
      (fun c => Text.isAscii c && !List.contains ['%', '+', '&'] c) = true := by
    decide
  simpa [Text.NeedNoEscape] using hchars

theorem needNoEscape_render (n : Int) : Text.NeedNoEscape (Numeral.render n).toList := by
  intro c hc
  rcases Numeral.eq_or_isDigit_of_mem_render hc with rfl | hdigit
  · decide
  · have hrange := Char.isDigit_iff_toNat.mp hdigit
    have hnine : '9'.toNat = 57 := rfl
    refine ⟨decide_eq_true (by omega), ?_⟩
    simp only [List.mem_cons, List.not_mem_nil, or_false]
    rintro (rfl | rfl | rfl) <;> simp at hdigit

/-- The query has one field, the bound as a decimal text. -/
theorem toLatin1_query_recordsSince (n : Int) :
    Bytes.toLatin1 (recordsSince n).query =
      Since.fieldName.toList ++ '=' :: (Numeral.render n).toList := by
  have htext : s!"since={Numeral.render n}".toList =
      Since.fieldName.toList ++ '=' :: (Numeral.render n).toList := by
    rw [String.toList_append]
    rfl
  rw [← htext]
  refine Text.toLatin1_encodeUtf8 ?_
  rw [htext, List.forall_mem_append, List.forall_mem_cons]
  exact ⟨fun c hc => (needNoEscape_fieldName c hc).1, by decide,
    fun c hc => (needNoEscape_render n c hc).1⟩

/-- The request for recent records has its bound in the query. -/
theorem read_recordsSince {n : Int} (hn : -2 ^ 63 ≤ n ∧ n < 2 ^ 63) :
    Since.read (recordsSince n) = .ok (some n) := by
  have hcarries : Since.Carries (Numeral.render n) (recordsSince n) := by
    refine .query ?_
    rw [toLatin1_query_recordsSince]
    exact .field (Text.escapes_encodeUtf8 needNoEscape_fieldName) (by decide)
      (Text.escapes_encodeUtf8 (needNoEscape_render n))
  have hshort : n.natAbs < 10 ^ Numeral.maxDigits :=
    calc n.natAbs < 10 ^ 20 := by omega
      _ ≤ 10 ^ Numeral.maxDigits := Nat.pow_le_pow_right (by decide) (by decide)
  rw [Since.read_eq_of_carries hcarries,
    Since.toInt_text_eq_ok_iff.mpr (Numeral.denotes_render hshort)]
  rfl

/-! ### Answers -/

variable {reply : Reply} {next : Monitor}

/-- What the client gets is the response, unless a failure is raised after it. -/
theorem fetch_eq {url : Url} (hkind : url.hasKind = true)
    (hreply : m.respond url.request = (reply, next))
    (hraised : reply.raised = none ∨ raises = false) :
    fetch m raises url = (.ok reply.response, next) := by
  unfold fetch
  rw [hreply]
  dsimp only
  split
  · rename_i hsome
    rcases hraised with hnone | hfalse
    · rw [hnone] at hsome
      cases hsome
    · cases hfalse
  · rw [if_pos hkind]

/-- Below its base address, the client gets what the service answers to the request for the path. -/
theorem fetchContent_eq (h : base.IsServiceBase) {path fullPath : String}
    (hpath : Url.LeadsTo path fullPath) (hreply : m.respond (.ofPath fullPath) = (reply, next))
    (hraised : reply.raised = none ∨ raises = false) :
    fetchContent m raises base path =
      ((content reply.response).map (reply.response.status, ·), next) := by
  have hrequest : ({ base with path := fullPath } : Url).request = .ofPath fullPath := by
    rw [Url.request, h.query, hpath.isEmpty_eq]
    rfl
  have hfetch : fetch m raises { base with path := fullPath } = (.ok reply.response, next) :=
    fetch_eq (Url.hasKind_of_scheme h.scheme) (by rw [hrequest, hreply]) hraised
  unfold fetchContent
  rw [h.join_eq hpath]
  dsimp only
  rw [hfetch]

/-- The client reads the JSON value that a response was made from. -/
theorem content_ofResponse_json {r : Request} {status : Nat} {x : Json} (h : x.HasDoubles) :
    content (Reply.ofResponse r (.json status x)).response = .ok x.asRead := by
  have hbody : (Reply.ofResponse r (.json status x)).response.body = x.render := rfl
  rw [content, hbody, Json.read?_render h]

/-! ### Runs -/

/-- What the service says about its health. -/
def healthNotice : Json :=
  NoticeKind.health.toJson "ok"

/-- The line about the health of the service. -/
def healthLine : String :=
  "Health 200 \x7b'status': 'ok'\x7d\n"

/-- The answer to the question for the health is always the same. -/
theorem respond_health (m : Monitor) :
    m.respond (.ofPath "/api/health") =
      (.ofResponse (.ofPath "/api/health") (.json 200 healthNotice), m) := by
  have hfind : Route.find "GET" (Text.percentDecode "/api/health".toList) = .handled .health := by
    decide +kernel
  unfold Monitor.respond
  dsimp only [Request.ofPath]
  rw [hfind]
  rfl

/-- Every run begins with the same answer, and the service is the same after it. -/
theorem fetchContent_health (h : base.IsServiceBase) :
    fetchContent m raises base "/health" = (.ok (200, healthNotice), m) := by
  rw [fetchContent_eq h Url.leadsTo_health (respond_health m) (.inl rfl),
    content_ofResponse_json (x := healthNotice) ⟨trivial, trivial⟩]
  rfl

theorem healthLine_eq : s!"Health {200} {healthNotice.display}\n" = healthLine := by
  decide +kernel

/-- **What decides a run** is the answer to the request for all records. -/
theorem run_eq {clock : Clock} (h : FindsService m base)
    (hreply : m.respond allRecords = (reply, next))
    (hraised : reply.raised = none ∨ raises = false) :
    run m raises clock =
      match content reply.response with
      | .error e => (⟨healthLine, .error e⟩, next)
      | .ok answer =>
        if reply.response.status = 200 then runCards next raises base clock healthLine answer
        else
          (⟨healthLine ++
              s!"Data request failed {reply.response.status} {answer.display}\n", .ok 1⟩,
            next) := by
  have hdata : fetchContent m raises base "/data" =
      ((content reply.response).map (reply.response.status, ·), next) :=
    fetchContent_eq h.isServiceBase Url.leadsTo_data hreply hraised
  -- The first line is taken as the client makes it; it is long to evaluate.
  rw [← healthLine_eq]
  unfold run
  rw [h.parseBase_eq]
  dsimp only
  unfold runAt
  rewrite [fetchContent_health h.isServiceBase]
  dsimp only
  rewrite [hdata]
  cases content reply.response with
  | error e => rfl
  | ok answer => rfl

end SmokeClient

end CardHealth
