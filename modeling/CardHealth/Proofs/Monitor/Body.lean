import CardHealth.Proofs.Base64
import CardHealth.Proofs.CardStatus.RoundTrip
import CardHealth.Proofs.Monitor.Bound
import CardHealth.Proofs.Monitor.Data

/-!
# Bodies of answers

What a client reads in an answer with status 200.  Its body is the text of the list of records for
the bound of the request (`respond_of_status_eq`), and each record is made from one row of the
store.

* `sector_maps_read_back`: a sector map is encoded once between the store and the body, and decoding
  gives back its bytes.
* `records_read_back`: the body is read as the array of the records, in the order of the list.

A stored real number is a double, and so are the rates that are made from the cells of rows
(`isDouble_rate_of_list`); this is what makes their shortest digits come back as the same number.
-/

namespace CardHealth

open Http

/-! ### Cells and records -/

namespace Store

variable {row : StatusRow} {s : CardStatus}

theorem StatusRow.isDouble_rate (hrow : ∀ x, row.snapshot .rate = .real x → x.IsDouble)
    (h : row.check = .ok s) : s.rate.IsDouble := by
  obtain ⟨-, -, -, -, -, -, hrate, -, -⟩ := (check_eq_ok_iff row s).mp h
  refine Value.isDouble_toFloat (fun x hx => hrow x ?_) hrate
  -- Of the five kinds of cells, only a real number is given as a number that may be fractional.
  cases hcell : row.snapshot .rate with
  | real y =>
    rw [hcell] at hx
    rw [Value.float.inj hx]
  | _ =>
    rw [hcell] at hx
    cases hx

theorem StatusRow.data_of_blob {b : Bytes} (hblob : row.snapshot .sectorMap = .blob b)
    (h : row.check = .ok s) : s.data = Base64.encode b := by
  obtain ⟨-, -, hdata, -⟩ := (check_eq_ok_iff row s).mp h
  rw [hblob] at hdata
  exact (Except.ok.inj hdata).symm

theorem StatusRow.data_of_null (hnull : row.snapshot .sectorMap = .null) (h : row.check = .ok s) :
    s.data = "" := by
  obtain ⟨-, -, hdata, -⟩ := (check_eq_ok_iff row s).mp h
  rw [hnull] at hdata
  exact (Except.ok.inj hdata).symm

/-- Whether the real numbers among the stored rates are doubles. -/
def Database.HasDoubleRates (db : Database) : Prop :=
  ∀ snapshots, db.snapshots = some snapshots →
    ∀ row ∈ snapshots.rows, ∀ x, row .rate = .real x → x.IsDouble

theorem Database.Holds.hasDoubleRates {db : Database} {cards : List Card}
    {snapshots : List Snapshot} (h : db.Holds cards snapshots)
    (hrates : ∀ snapshot ∈ snapshots, snapshot.rate.IsDouble) : db.HasDoubleRates := by
  intro table htable row hrow x hx
  obtain ⟨snapshot, hsnapshot, hcells⟩ := h.exists_isRow htable hrow
  have hrate : snapshot.rate = x := Cell.real.inj (hcells.rate.symm.trans hx)
  rw [← hrate]
  exact hrates snapshot hsnapshot

end Store

open Store

namespace CardStatus

/-- The data of a record that is made from a row: the bytes of its sector map come back, and there
is no text if there are no bytes. -/
structure CarriesMap (row : StatusRow) (s : CardStatus) : Prop where
  decode? : ∀ b, row.snapshot .sectorMap = .blob b → Base64.decode? s.data = some b
  decodeLenient : ∀ b, row.snapshot .sectorMap = .blob b → Base64.decodeLenient s.data = .ok b
  empty : row.snapshot .sectorMap = .null ∨ row.snapshot .sectorMap = .blob [] → s.data = ""

theorem carriesMap_of_check {row : StatusRow} {s : CardStatus} (h : row.check = .ok s) :
    CarriesMap row s where
  decode? b hblob := by
    rw [StatusRow.data_of_blob hblob h, Base64.decode?_encode]
  decodeLenient b hblob := by
    rw [StatusRow.data_of_blob hblob h, Base64.decodeLenient_encode]
  empty hcell := by
    rcases hcell with hnull | hblob
    · exact StatusRow.data_of_null hnull h
    · exact StatusRow.data_of_blob hblob h

end CardStatus

namespace Monitor

variable {m : Monitor} {r : Request} {since : Option Int} {records : List CardStatus}

/-! ### Answers with a list -/

/-- **An answer with status 200 is a list**: the one for the bound of the request. -/
theorem respond_of_status_eq (hr : r.asksForRecords = true)
    (hstatus : (m.respond r).1.response.status = 200) :
    ∃ since records, Since.read r = .ok since ∧ (m.list since).1 = .ok records ∧
      (m.respond r).1 = .ofResponse r (.json 200 (CardStatus.listToJson records)) := by
  -- Every answer without a list has another status.
  have hinternal : (500 : Nat) ≠ 200 := by decide
  cases hout : m.outage? with
  | some outage =>
    rw [respond_of_outage? hr hout] at hstatus
    exact absurd hstatus hinternal
  | none =>
    cases hconnect : m.connect.1 with
    | error f =>
      rw [respond_of_failure hr hout hconnect] at hstatus
      exact absurd hstatus hinternal
    | ok connection =>
      cases hsince : Since.read r with
      | error e =>
        rw [respond_of_connect hr hconnect, serveRecords_of_error hsince] at hstatus
        have hmem := status_sinceReply_mem r e
        rw [hstatus] at hmem
        exact absurd hmem (by decide)
      | ok since =>
        have hreply := respond_fst_of_bound hr hconnect hsince
        cases hlist : (m.list since).1 with
        | error f =>
          rw [hreply, hlist] at hstatus
          exact absurd hstatus hinternal
        | ok records =>
          rw [hlist] at hreply
          exact ⟨since, records, rfl, hlist, hreply⟩

/-- Every record of a list is made from a row of the store that the list is taken from. -/
theorem exists_row_of_list (h : (m.list since).1 = .ok records) :
    ∃ db snapshots, m.found? = some db ∧ db.snapshots = some snapshots ∧
      ∀ s ∈ records, ∃ row : StatusRow, row.snapshot ∈ snapshots.rows ∧ row.check = .ok s := by
  obtain ⟨db, cards, snapshots, built, hdb, -, hsnapshots, hperm, hbuilt⟩ := exists_rows_of_list h
  refine ⟨db, snapshots, hdb, hsnapshots, fun s hs => ?_⟩
  obtain ⟨row, hrow, hcheck⟩ := exists_mem_of_forall₂ hbuilt (hperm.mem_iff.mpr hs)
  exact ⟨row, (mem_selectedRows.mp hrow).2.1, hcheck⟩

theorem isDouble_rate_of_list (hm : ∀ db, m.found? = some db → db.HasDoubleRates)
    (h : (m.list since).1 = .ok records) : ∀ s ∈ records, s.rate.IsDouble := by
  obtain ⟨db, snapshots, hdb, hsnapshots, hrecords⟩ := exists_row_of_list h
  intro s hs
  obtain ⟨row, hrow, hcheck⟩ := hrecords s hs
  exact StatusRow.isDouble_rate (hm db hdb snapshots hsnapshots _ hrow) hcheck

/-- The body of an answer with a list, as the client reads it. -/
theorem read?_body_of_list (hm : ∀ db, m.found? = some db → db.HasDoubleRates)
    (hlist : (m.list since).1 = .ok records)
    (hreply : (m.respond r).1 = .ofResponse r (.json 200 (CardStatus.listToJson records))) :
    Json.read? (m.respond r).1.response.body =
      some (.array (records.map fun s => .object s.readMembers)) := by
  have hbody : (m.respond r).1.response.body = (CardStatus.listToJson records).render := by
    rw [hreply]
    rfl
  rw [hbody, CardStatus.read?_render_listToJson (isDouble_rate_of_list hm hlist)]

theorem hasDoubleRates_small {db : Database} (hdb : (small (-1)).found? = some db) :
    db.HasDoubleRates := by
  obtain ⟨found, hfound, hholds⟩ := exists_small_holds
  obtain rfl : found = db := Option.some.inj (Eq.trans hfound.symm hdb)
  have hrates : ∀ snapshot ∈ smallSnapshots, snapshot.rate = .zero := by decide
  refine hholds.hasDoubleRates fun snapshot hsnapshot => ?_
  rw [hrates snapshot hsnapshot]
  exact Binary64.isDouble_zero false

theorem status_respond_small : ((small (-1)).respond (asking "")).1.response.status = 200 := by
  obtain ⟨db, hdb, hholds⟩ := exists_small_holds
  obtain ⟨connection, hconnect, -⟩ := found?_eq_some_iff.mp hdb
  have hnone : Since.read (asking "") = .ok none := by decide +kernel
  rw [respond_fst_of_bound (by decide +kernel) hconnect hnone, list_eq_listing hdb hholds rfl]
  rfl

/-! ### Sector maps -/

/-- **Sector maps survive**.  The encoding of a byte string, of whatever kind, is a text that
decodes to it and to nothing else: four characters for every three bytes begun, all of them from the
standard alphabet up to the padding at the end.  An answer with status 200 has one object for each
selected row, and the data of the object decode to the stored byte string; they are the empty text
if the map is absent or has no bytes. -/
theorem sector_maps_read_back :
    (∀ kind b, ∃ text, CardStatus.encodeSectorMap (.bytes kind b) = .text text ∧
      Base64.decode? text = some b ∧ Base64.decodeLenient text = .ok b ∧
      text.length = 4 * ((b.length + 2) / 3) ∧
      (∃ body, text.toList = body ++ List.replicate ((3 - b.length % 3) % 3) '=' ∧
        ∀ c ∈ body, c ∈ Base64.alphabet) ∧
      (∀ again decoded, Base64.decode? text = some decoded →
        CardStatus.encodeSectorMap (.bytes again decoded) = .text text) ∧
      ∀ other b', CardStatus.encodeSectorMap (.bytes other b') = .text text → b' = b) ∧
    ∀ (m : Monitor) (r : Request), r.asksForRecords = true →
      (m.respond r).1.response.status = 200 →
      ∃ since db cards snapshots built records, Since.read r = .ok since ∧ m.found? = some db ∧
        db.cards = some cards ∧ db.snapshots = some snapshots ∧
        List.Forall₂ (fun row s => row.check = .ok s ∧ CardStatus.CarriesMap row s)
          (selectedRows cards.rows snapshots.rows since) built ∧
        built.Perm records ∧
        (m.respond r).1.response.body = (CardStatus.listToJson records).render ∧
        (db.HasDoubleRates → ∃ items,
          Json.read? (m.respond r).1.response.body = some (.array items) ∧
            List.Forall₂ (fun s item => item.member? "id" = some (.int s.id) ∧
              item.member? "data" = some (.string s.data)) records items) := by
  refine ⟨fun kind b => ?_, fun m r hr hstatus => ?_⟩
  · refine ⟨Base64.encode b, rfl, Base64.decode?_encode b, Base64.decodeLenient_encode b,
      Base64.length_encode b, ?_, fun again decoded hdecoded => ?_, fun other b' hsame => ?_⟩
    · rw [Base64.toList_encode]
      exact Base64.exists_chars_eq b
    · rw [Base64.decode?_eq_some_iff.mp hdecoded]
      rfl
    · exact Base64.encode_injective (Value.text.inj hsame)
  · obtain ⟨since, records, hsince, hlist, hreply⟩ := respond_of_status_eq hr hstatus
    obtain ⟨db, cards, snapshots, built, hdb, hcards, hsnapshots, hperm, hbuilt⟩ :=
      exists_rows_of_list hlist
    refine ⟨since, db, cards, snapshots, built, records, hsince, hdb, hcards, hsnapshots,
      hbuilt.imp fun row s hs => ⟨hs, CardStatus.carriesMap_of_check hs⟩, hperm, ?_,
      fun hrates => ?_⟩
    · rw [hreply]
      rfl
    · refine ⟨_, read?_body_of_list (fun found hfound => ?_) hlist hreply, ?_⟩
      · rwa [← Option.some.inj (hdb.symm.trans hfound)]
      · rw [List.forall₂_map_right_iff, List.forall₂_same]
        exact fun s _ => ⟨rfl, rfl⟩

theorem sector_maps_read_back_small :
    (∃ text, CardStatus.encodeSectorMap (.bytes .view [1, 2]) = .text text ∧ text.length = 4 ∧
      Base64.decode? text = some [1, 2]) ∧
    ∃ items item, Json.read? ((small (-1)).respond (asking "")).1.response.body =
        some (.array items) ∧ item ∈ items ∧ item.member? "id" = some (.int 2) ∧
      ∃ text, item.member? "data" = some (.string text) ∧
        Base64.decode? text = some [1, 2] := by
  constructor
  · obtain ⟨text, htext, hdecode, -, hlength, -⟩ := sector_maps_read_back.1 .view [1, 2]
    exact ⟨text, htext, hlength, hdecode⟩
  · obtain ⟨since, db, cards, snapshots, built, records, hsince, hdb, hcards, hsnapshots, hbuilt,
      hperm, -, hread⟩ :=
        sector_maps_read_back.2 (small (-1)) (asking "") (by decide +kernel) status_respond_small
    obtain ⟨items, hitems, hmembers⟩ := hread (hasDoubleRates_small hdb)
    have hnone : Since.read (asking "") = .ok none := by decide +kernel
    obtain rfl := Except.ok.inj (hsince.symm.trans hnone)
    -- The card `A` has a sector map of two bytes.
    have hsmall : ∃ db ∈ (small (-1)).found?, ∃ cards ∈ db.cards, ∃ snapshots ∈ db.snapshots,
        ∃ row ∈ selectedRows cards.rows snapshots.rows none,
          row.card .id = .int 2 ∧ row.snapshot .sectorMap = .blob [1, 2] := by
      decide +kernel
    obtain ⟨found, hfound, cards', hcards', snapshots', hsnapshots', row, hrow, hid, hblob⟩ :=
      hsmall
    obtain rfl := Option.some.inj (hdb.symm.trans hfound)
    obtain rfl := Option.some.inj (hcards.symm.trans hcards')
    obtain rfl := Option.some.inj (hsnapshots.symm.trans hsnapshots')
    obtain ⟨s, hs, hcheck, hmap⟩ := exists_mem_of_forall₂ hbuilt.flip hrow
    obtain ⟨item, hitem, hitemId, hdata⟩ :=
      exists_mem_of_forall₂ hmembers.flip (hperm.mem_iff.mp hs)
    have hcardId := ((StatusRow.check_eq_ok_iff row s).mp hcheck).1
    rw [hid] at hcardId
    rw [← Except.ok.inj hcardId] at hitemId
    exact ⟨items, item, hitems, hitem, hitemId, s.data, hdata, hmap.decode? _ hblob⟩

/-! ### Records -/

/-- **Records survive**.  The text of an accepted record is read as one object, with the nine keys
of records in their order and the fields of the record as values; a rate that is not finite is null.
The object is accepted as the same record again if the rate is finite, and is refused otherwise,
only because its rate is no number.  The body of an answer with status 200 is read as the array of
these objects, in the order of the list. -/
theorem records_read_back :
    (∀ v s, v.HasDoubles → CardStatus.check v = .ok s →
      Json.read? s.render = some (.object s.readMembers) ∧
      s.readMembers.map (·.1) = CardStatus.keys ∧
      (s.rate.isFinite = true → .object s.readMembers = s.toJson ∧
        CardStatus.check (.ofJson (.object s.readMembers)) = .ok s) ∧
      (s.rate.isFinite = false → ∃ fault, fault.code = "float_type" ∧
        CardStatus.check (.ofJson (.object s.readMembers)) =
          .error ⟨"CardStatus", [⟨some "rate", fault⟩]⟩)) ∧
    ∀ (m : Monitor) (r : Request), r.asksForRecords = true →
      (m.respond r).1.response.status = 200 →
      (∀ db, m.found? = some db → db.HasDoubleRates) →
      ∃ since records, Since.read r = .ok since ∧ (m.list since).1 = .ok records ∧
        Json.read? (m.respond r).1.response.body =
          some (.array (records.map fun s => .object s.readMembers)) ∧
        ((∀ s ∈ records, s.rate.isFinite = true) →
          Json.read? (m.respond r).1.response.body =
            some (.array (records.map CardStatus.toJson))) := by
  refine ⟨fun v s hv hs => ?_, fun m r hr hstatus hm => ?_⟩
  · have hrate := CardStatus.isDouble_rate_of_check hv hs
    have hagain := CardStatus.check_readMembers s
    refine ⟨CardStatus.read?_render_record hrate, s.map_fst_readMembers, fun hfinite => ?_,
      fun hinfinite => ?_⟩
    · rw [if_pos hfinite] at hagain
      exact ⟨CardStatus.object_readMembers hfinite, hagain⟩
    · rw [if_neg (by simp [hinfinite])] at hagain
      exact ⟨.notANumber, rfl, hagain⟩
  · obtain ⟨since, records, hsince, hlist, hreply⟩ := respond_of_status_eq hr hstatus
    have hread := read?_body_of_list hm hlist hreply
    refine ⟨since, records, hsince, hlist, hread, fun hfinite => ?_⟩
    rw [hread, CardStatus.map_object_readMembers hfinite]

/-- A value for a record with this rate. -/
def rated (rate : Binary64) : Value :=
  .object
    [("id", .int 1), ("name", .text "a"), ("data", .null), ("last_updated", .int 100),
     ("size", .int 7), ("status", .int 0), ("rate", .float rate), ("num_bad_sectors", .int 0),
     ("cur_round_num", .int 3)]

theorem hasDoubles_rated {rate : Binary64} (h : rate.IsDouble) : (rated rate).HasDoubles := by
  intro field hfield x hx
  simp only [List.mem_cons, List.not_mem_nil, or_false] at hfield
  rcases hfield with rfl | rfl | rfl | rfl | rfl | rfl | rfl | rfl | rfl <;> cases hx
  exact h

theorem records_read_back_small :
    (∃ s, CardStatus.check (rated .nan) = .ok s ∧
      Json.read? s.render = some (.object s.readMembers) ∧
      ∃ fault, fault.code = "float_type" ∧
        CardStatus.check (.ofJson (.object s.readMembers)) =
          .error ⟨"CardStatus", [⟨some "rate", fault⟩]⟩) ∧
    (∃ s, CardStatus.check (rated .zero) = .ok s ∧ Json.read? s.render = some s.toJson) ∧
    Json.read? ((small (-1)).respond (asking "")).1.response.body =
      some (.array ((listing smallCards smallSnapshots none).map CardStatus.toJson)) := by
  have hzero : Binary64.zero.IsDouble := Binary64.isDouble_zero false
  refine ⟨?_, ?_, ?_⟩
  · obtain ⟨hread, -, -, hrefused⟩ :=
      records_read_back.1 (rated .nan) _ (hasDoubles_rated .nan) rfl
    exact ⟨_, rfl, hread, hrefused rfl⟩
  · obtain ⟨hread, -, haccepted, -⟩ :=
      records_read_back.1 (rated .zero) _ (hasDoubles_rated hzero) rfl
    exact ⟨_, rfl, by rw [hread, (haccepted rfl).1]⟩
  · obtain ⟨since, records, hsince, hlist, -, hread⟩ :=
      records_read_back.2 (small (-1)) (asking "") (by decide +kernel) status_respond_small
        fun db hdb => hasDoubleRates_small hdb
    have hnone : Since.read (asking "") = .ok none := by decide +kernel
    obtain rfl := Except.ok.inj (hsince.symm.trans hnone)
    obtain ⟨db, hdb, hholds⟩ := exists_small_holds
    obtain rfl := Except.ok.inj (hlist.symm.trans (list_eq_listing hdb hholds rfl))
    refine hread fun s hs => ?_
    have hfinite : ∀ pair ∈ reported smallCards smallSnapshots none,
        (recordOf pair).rate.isFinite = true := by
      decide
    obtain ⟨pair, hpair, rfl⟩ :=
      List.mem_map.mp ((listing_perm smallCards smallSnapshots none).mem_iff.mp hs)
    exact hfinite pair hpair

end Monitor

end CardHealth
