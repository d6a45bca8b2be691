import CardHealth.Proofs.Base64
import CardHealth.Proofs.Monitor.Body
import CardHealth.Proofs.Monitor.Memory
import CardHealth.Proofs.SmokeClient.Requests

/-!
# What the smoke client reports

On a well-typed store a run ends well, and what it prints are facts about the store
(`run_reports_store`): how many pairs of a card and a snapshot are reported, a line about each of
them, and how many are recent.

The lines are about the pairs behind the records of the answer (`exists_pairs_of_listing`); the data
of each record decode to the stored sector map (`decodeLenient_recordOf`).  The second answer has as
many records as there are recent pairs (`length_listing_some`): it is given by the same service
after a use, which makes no difference.
-/

namespace CardHealth.SmokeClient

open Http Monitor Store

variable {m : Monitor} {base : Url} {raises : Bool} {cards : List Card}
  {snapshots : List Snapshot}

/-! ### Lines -/

theorem padLeft_eq_leftpad (width : Nat) (s : String) :
    padLeft width s = String.ofList (s.toList.leftpad width ' ') := by
  rw [padLeft, List.leftpad, String.length_toList, String.ofList_append, String.ofList_toList]

theorem padRight_eq_rightpad (width : Nat) (s : String) :
    padRight width s = String.ofList (s.toList.rightpad width ' ') := by
  rw [padRight, List.rightpad, String.length_toList, String.ofList_append, String.ofList_toList]

/-- The line about a record whose sector map has this many bytes: its identifier at the end of a
column of four characters, its name at the beginning of one of twenty, and three numbers. -/
def reportLine (s : CardStatus) (size : Nat) : String :=
  let id := String.ofList ((toString s.id).toList.leftpad 4 ' ')
  let name := String.ofList (s.name.toList.rightpad 20 ' ')
  s!"  {id} {name} round={s.curRoundNum} bad={s.numBadSectors} map={size}B\n"

/-- How many bytes a snapshot has stored as its sector map; none if there is no map. -/
def mapSize (snapshot : Snapshot) : Nat :=
  snapshot.sectorMap.elim 0 List.length

/-- The line about a card with one of its snapshots. -/
def pairLine (pair : Card × Snapshot) : String :=
  reportLine (recordOf pair) (mapSize pair.2)

/-- A field of a record as its line shows it. -/
def shownField (s : CardStatus) (key : String) : String :=
  (((Json.object s.readMembers).member? key).map shown).getD ""

/-- A record whose data can be decoded has a line. -/
theorem cardLine_readMembers {s : CardStatus} {b : Bytes}
    (h : Base64.decodeLenient s.data = .ok b) :
    cardLine (.object s.readMembers) = .ok (reportLine s b.length) := by
  -- A record that is read back has each of the fields that the line shows.
  have hdata : shownField s "data" = s.data := rfl
  have hid : shownField s "id" = Numeral.render s.id := rfl
  have hname : shownField s "name" = s.name := rfl
  have hround : shownField s "cur_round_num" = Numeral.render s.curRoundNum := rfl
  have hbad : shownField s "num_bad_sectors" = Numeral.render s.numBadSectors := rfl
  unfold shownField at hdata hid hname hround hbad
  unfold cardLine reportLine
  simp only [hdata, hid, hname, hround, hbad, h, padLeft_eq_leftpad, padRight_eq_rightpad,
    Numeral.render_eq_toString]
  rfl

/-- The data of a record decode to what its snapshot has stored. -/
theorem decodeLenient_recordOf (pair : Card × Snapshot) :
    Base64.decodeLenient (recordOf pair).data = .ok (pair.2.sectorMap.getD []) := by
  have hdata : (recordOf pair).data = Base64.encode (pair.2.sectorMap.getD []) := by
    show (pair.2.sectorMap.map Base64.encode).getD "" = _
    cases pair.2.sectorMap with
    | none => decide
    | some b => rfl
  rw [hdata, Base64.decodeLenient_encode]

/-- **The lines about records** are those about the pairs that they were made from. -/
theorem cardLines_map (pairs : List (Card × Snapshot)) :
    cardLines (pairs.map fun pair => .object (recordOf pair).readMembers) =
      (String.join (pairs.map pairLine), none) := by
  induction pairs with
  | nil => rfl
  | cons pair pairs ih =>
    have hsize : (pair.2.sectorMap.getD []).length = mapSize pair.2 := by
      unfold mapSize
      cases pair.2.sectorMap <;> rfl
    rw [List.map_cons, cardLines, cardLine_readMembers (decodeLenient_recordOf pair), hsize, ih]
    rw [List.map_cons, String.join_cons]
    rfl

/-! ### Pairs -/

/-- The records of a list come from the reported pairs, in an order of these. -/
theorem exists_pairs_of_listing (cards : List Card) (snapshots : List Snapshot)
    (since : Option Int) :
    ∃ pairs : List (Card × Snapshot), pairs.Perm (reported cards snapshots since) ∧
      pairs.map recordOf = listing cards snapshots since := by
  -- The order of the records is carried over to the pairs that they were made from.
  have hmade : List.Forall₂ (fun s pair => recordOf pair = s)
      ((reported cards snapshots since).map recordOf) (reported cards snapshots since) := by
    rw [List.forall₂_map_left_iff, List.forall₂_same]
    exact fun _ _ => rfl
  obtain ⟨pairs, hpairs, hperm⟩ :=
    List.perm_comp_forall₂ (listing_perm cards snapshots since) hmade
  refine ⟨pairs, hperm, ?_⟩
  rw [← List.forall₂_eq_eq_eq, List.forall₂_map_left_iff]
  exact hpairs.flip

/-- How many pairs are not older than a bound. -/
def countSince (n : Int) (pairs : List (Card × Snapshot)) : Nat :=
  pairs.countP fun pair => n ≤ pair.2.lastUpdated

/-- A bounded list has one record for each pair of the unbounded one that is not older. -/
theorem length_listing_some {pairs : List (Card × Snapshot)}
    (h : pairs.map recordOf = listing cards snapshots none) (n : Int) :
    (listing cards snapshots (some n)).length = countSince n pairs := by
  rw [(listing_some_perm cards snapshots n).length_eq, ← h, List.filter_map, List.length_map,
    ← List.countP_eq_length_filter]
  rfl

/-! ### Answers -/

section Answers

variable {db : Database} (hdb : m.found? = some db) (hholds : db.Holds cards snapshots)

include hdb hholds

/-- What the service answers to a request for records on a well-typed store. -/
theorem respond_fst_of_holds {r : Request} (hr : r.asksForRecords = true) {since : Option Int}
    (hsince : Since.read r = .ok since) (hfits : boundFits since = true) :
    (m.respond r).1 =
      .ofResponse r (.json 200 (CardStatus.listToJson (listing cards snapshots since))) := by
  obtain ⟨connection, hconnect, -⟩ := found?_eq_some_iff.mp hdb
  rw [respond_fst_of_bound hr hconnect hsince, list_eq_listing hdb hholds hfits]

/-- What the client reads in this answer. -/
theorem content_respond_of_holds (hrates : ∀ snapshot ∈ snapshots, snapshot.rate.IsDouble)
    {r : Request} (hr : r.asksForRecords = true) {since : Option Int}
    (hsince : Since.read r = .ok since) (hfits : boundFits since = true) :
    content (m.respond r).1.response =
      .ok (.array ((listing cards snapshots since).map fun s => .object s.readMembers)) := by
  have hdoubles : ∀ found, m.found? = some found → found.HasDoubleRates := by
    intro found hfound
    obtain rfl := Option.some.inj (hdb.symm.trans hfound)
    exact hholds.hasDoubleRates hrates
  rw [content, read?_body_of_list hdoubles (list_eq_listing hdb hholds hfits)
    (respond_fst_of_holds hdb hholds hr hsince hfits)]

end Answers

/-! ### Runs -/

/-- The number of recent records is that of the items of the answer. -/
theorem countRecent_fst (h : base.IsServiceBase) {clock : Clock} {now : Int}
    (hclock : clock.seconds = .ok now) {reply : Reply}
    (hreply : (m.respond (recordsSince (now - recentSeconds))).1 = reply)
    (hraised : reply.raised = none) (hstatus : reply.response.status = 200) {items : List Json}
    (hcontent : content reply.response = .ok (.array items)) :
    (countRecent m raises base clock).1 = .ok items.length := by
  have hrecent : m.respond (recentUrl base (now - recentSeconds)).request =
      (reply, (m.respond (recordsSince (now - recentSeconds))).2) := by
    rw [request_recentUrl, ← hreply]
  have hkind : (recentUrl base (now - recentSeconds)).hasKind = true :=
    Url.hasKind_of_scheme h.scheme
  have hfetch : fetch m raises (recentUrl base (now - recentSeconds)) = (.ok reply.response, _) :=
    fetch_eq hkind hrecent (.inl hraised)
  have hjoin : base.join "/data" = .ok { base with path := "/api/data" } :=
    h.join_eq Url.leadsTo_data
  unfold recentUrl at hfetch
  unfold countRecent
  rw [hclock, hjoin]
  dsimp only
  rw [hfetch]
  dsimp only
  rw [hstatus, if_pos rfl, hcontent]
  rfl

/-- **The number of recent records** after another request: as many as there are recent pairs. -/
theorem countRecent_respond_fst {db : Database} (h : base.IsServiceBase)
    (hdb : m.found? = some db) (hholds : db.Holds cards snapshots)
    (hrates : ∀ snapshot ∈ snapshots, snapshot.rate.IsDouble) {clock : Clock} {now : Int}
    (hclock : clock.seconds = .ok now) (hnow : -2 ^ 63 ≤ now - 300 ∧ now - 300 < 2 ^ 63)
    {pairs : List (Card × Snapshot)} (hpairs : pairs.map recordOf = listing cards snapshots none)
    (r : Request) :
    (countRecent (m.respond r).2 raises base clock).1 = .ok (countSince (now - 300) pairs) := by
  have hr := asksForRecords_recordsSince (now - 300)
  have hsince := read_recordsSince hnow
  have hfits : boundFits (some (now - 300)) = true := by
    rw [boundFits_iff]
    rintro _ ⟨⟩
    exact hnow
  have hreply := respond_fst_of_holds hdb hholds hr hsince hfits
  have hcontent := content_respond_of_holds hdb hholds hrates hr hsince hfits
  rw [hreply] at hcontent
  -- The first request makes no difference to the answer to the second one.
  rw [← (m.respond_isUsed r).respond_fst_eq] at hreply
  rw [countRecent_fst h hclock hreply rfl rfl hcontent, List.length_map,
    length_listing_some hpairs]

/-- What is printed about cards, and then the number of the recent ones. -/
theorem runCards_fst {clock : Clock} {printed : String} {pairs : List (Card × Snapshot)}
    {count : Nat} (hcount : (countRecent m raises base clock).1 = .ok count) :
    (runCards m raises base clock printed
        (.array (pairs.map fun pair => .object (recordOf pair).readMembers))).1 =
      ⟨printed ++ s!"Cards {pairs.length}\n" ++ String.join (pairs.map pairLine) ++
        s!"Updated in the last 5 minutes: {count}\n", .ok 0⟩ := by
  unfold runCards itemsOf
  dsimp only
  rw [cardLines_map, List.length_map]
  dsimp only
  -- Only what was counted is printed, not the state that it left behind.
  generalize countRecent m raises base clock = result at hcount ⊢
  obtain ⟨outcome, next⟩ := result
  obtain rfl : outcome = .ok count := hcount
  rfl

/-- **What a run prints on a well-typed store**.  The exit status is 0.  The cards are as many as
the pairs that are to be reported, and there is one line about each of them, in the order of the
answer to the request for all records; the size of its map is the number of bytes that are stored.
The last number is that of the pairs that are not older than five minutes. -/
theorem run_reports_store {db : Database} (h : FindsService m base) (hdb : m.found? = some db)
    (hholds : db.Holds cards snapshots)
    (hrates : ∀ snapshot ∈ snapshots, snapshot.rate.IsDouble) {clock : Clock} {now : Int}
    (hclock : clock.seconds = .ok now) (hnow : -2 ^ 63 ≤ now - 300 ∧ now - 300 < 2 ^ 63)
    (raises : Bool) :
    ∃ pairs : List (Card × Snapshot),
      (pairs : Multiset (Card × Snapshot)) =
        ((cards : Multiset Card) ×ˢ (snapshots : Multiset Snapshot)).filter (IsReported none) ∧
      (m.respond allRecords).1 = .ofResponse allRecords
        (.json 200 (CardStatus.listToJson (pairs.map recordOf))) ∧
      (run m raises clock).1 =
        ⟨healthLine ++ s!"Cards {pairs.length}\n" ++ String.join (pairs.map pairLine) ++
          s!"Updated in the last 5 minutes: {countSince (now - 300) pairs}\n", .ok 0⟩ ∧
      countSince (now - 300) pairs ≤ pairs.length := by
  obtain ⟨pairs, hperm, hpairs⟩ := exists_pairs_of_listing cards snapshots none
  have hall := respond_fst_of_holds hdb hholds asksForRecords_allRecords read_allRecords rfl
  rw [← hpairs] at hall
  refine ⟨pairs, ?_, hall, ?_, List.countP_le_length⟩
  · rw [← coe_reported]
    exact Multiset.coe_eq_coe.mpr hperm
  · have hcount : (countRecent (m.respond allRecords).2 raises base clock).1 =
        .ok (countSince (now - 300) pairs) :=
      countRecent_respond_fst h.isServiceBase hdb hholds hrates hclock hnow hpairs allRecords
    have hcontent := content_respond_of_holds hdb hholds hrates asksForRecords_allRecords
      read_allRecords rfl
    rw [← hpairs, List.map_map] at hcontent
    have hreply : m.respond allRecords =
        (.ofResponse allRecords (.json 200 (CardStatus.listToJson (pairs.map recordOf))),
          (m.respond allRecords).2) := Prod.ext hall rfl
    rw [hall] at hcontent
    rewrite [run_eq h hreply (.inl rfl), hcontent]
    exact runCards_fst hcount

theorem run_reports_small_store :
    ∃ lines : List String,
      lines.Perm
        ["     1 B                    round=2 bad=0 map=0B\n",
         "     2 A                    round=0 bad=0 map=2B\n"] ∧
      (run (small (-1)) true (.whole 396)).1 =
        ⟨healthLine ++ "Cards 2\n" ++ String.join lines ++ "Updated in the last 5 minutes: 1\n",
          .ok 0⟩ := by
  obtain ⟨base, hbase⟩ := exists_findsService (m := small (-1)) (by decide +kernel)
  obtain ⟨db, hdb, hholds⟩ := exists_small_holds
  have hrates : ∀ snapshot ∈ smallSnapshots, snapshot.rate = .zero := by decide
  have hclock : (Clock.whole 396).seconds = .ok 396 := rfl
  obtain ⟨pairs, hpairs, -, hrun, -⟩ := run_reports_store hbase hdb hholds
    (fun snapshot hsnapshot => hrates snapshot hsnapshot ▸ Binary64.isDouble_zero false)
    hclock (by decide) true
  have hperm : pairs.Perm (reported smallCards smallSnapshots none) :=
    Multiset.coe_eq_coe.mp (hpairs.trans (coe_reported _ _ _).symm)
  have hlines : (reported smallCards smallSnapshots none).map pairLine =
      ["     1 B                    round=2 bad=0 map=0B\n",
       "     2 A                    round=0 bad=0 map=2B\n"] := by
    decide +kernel
  have hlength : pairs.length = 2 := hperm.length_eq.trans (by decide)
  have hcount : countSince (396 - 300) pairs = 1 := (hperm.countP_eq _).trans (by decide)
  rw [hlength, hcount] at hrun
  exact ⟨pairs.map pairLine, hlines ▸ hperm.map pairLine, hrun⟩

end CardHealth.SmokeClient
