import CardHealth.Proofs.CardStatus.Check
import CardHealth.Proofs.Entries
import CardHealth.Proofs.Json.RoundTrip

/-!
# Written records

The text of a record is read as an object with the keys of records, in their order, and with the
fields of the record as values; a rate that is not finite is read as null (`read?_render_record`).
The object is accepted as the same record if the rate is finite, and is refused for its rate alone
otherwise (`check_readMembers`).

All this is about rates that are doubles, as the rate of every accepted value is
(`isDouble_rate_of_check`).  The text of a list of records is read as the array of these objects
(`read?_render_listToJson`).
-/

namespace CardHealth

open Binary64

/-! ### Accepted rates -/

namespace Value

theorem isDouble_readBare? {s : List Char} {x : Binary64} (h : readBare? s = some x) :
    x.IsDouble := by
  unfold readBare? at h
  split at h
  · rename_i hword
    obtain rfl := Option.some.inj h
    unfold readWord? at hword
    dsimp only at hword
    split_ifs at hword
    · obtain rfl := Option.some.inj hword
      exact .infinity _
    · obtain rfl := Option.some.inj hword
      exact .nan
  · obtain ⟨d, -, rfl⟩ := Option.map_eq_some_iff.mp h
    exact isDouble_toBinary64 d

theorem isDouble_floatOfText {s : List Char} {x : Binary64} (h : floatOfText s = .ok x) :
    x.IsDouble := by
  unfold floatOfText at h
  split at h
  · rename_i hread
    obtain rfl := Except.ok.inj h
    unfold Binary64.read? at hread
    split at hread
    · rename_i hbare
      obtain rfl := Option.some.inj hread
      exact isDouble_readBare? hbare
    · obtain ⟨digits, -, hbare⟩ := Option.bind_eq_some_iff.mp hread
      exact isDouble_readBare? hbare
  · cases h

/-- What a value denotes as a double is one, unless the value itself is a number that is none. -/
theorem isDouble_toFloat {v : Value} {x : Binary64} (hv : ∀ y, v = .float y → y.IsDouble)
    (h : v.toFloat = .ok x) : x.IsDouble := by
  unfold toFloat at h
  split at h
  · obtain rfl := Except.ok.inj h
    exact isDouble_ofInt _
  · dsimp only at h
    split_ifs at h
    obtain rfl := Except.ok.inj h
    exact isDouble_ofInt _
  · obtain rfl := Except.ok.inj h
    exact hv _ rfl
  · exact isDouble_floatOfText h
  · split at h
    · exact isDouble_floatOfText h
    · cases h
  · cases h

/-- Whether the numbers among the fields of an object are doubles or integers. -/
def HasDoubles : Value → Prop
  | .object fields => ∀ field ∈ fields, ∀ x, field.2 = .float x → x.IsDouble
  | _ => True

end Value

namespace CardStatus

variable {s : CardStatus}

theorem isDouble_rate_of_check {v : Value} (hv : v.HasDoubles) (h : check v = .ok s) :
    s.rate.IsDouble := by
  cases v with
  | object fields =>
    obtain ⟨-, -, -, -, -, -, hrate, -, -⟩ :=
      (checkFields_eq_ok_iff fields s).mp ((check_object_eq_ok_iff fields s).mp h)
    unfold requiredField at hrate
    split at hrate
    · rename_i value hvalue
      exact Value.isDouble_toFloat (fun y hy => hv _ (mem_of_lastNamed? hvalue) y hy) hrate
    · cases hrate
  | _ => cases h

/-! ### Members of the object -/

/-- The members of a record as they are read from its text. -/
def readMembers (s : CardStatus) : List (String × Json) :=
  [("id", .int s.id), ("name", .string s.name), ("data", .string s.data),
   ("last_updated", .int s.lastUpdated), ("size", .int s.size), ("status", .int s.status),
   ("rate", if s.rate.isFinite then .float s.rate else .null),
   ("num_bad_sectors", .int s.numBadSectors), ("cur_round_num", .int s.curRoundNum)]

theorem asRead_toJson (s : CardStatus) : s.toJson.asRead = .object s.readMembers := rfl

theorem hasDoubles_toJson (h : s.rate.IsDouble) : s.toJson.HasDoubles :=
  ⟨trivial, trivial, trivial, trivial, trivial, trivial, h, trivial, trivial, trivial⟩

/-- A record with a finite rate is read as it was written. -/
theorem object_readMembers (h : s.rate.isFinite = true) : .object s.readMembers = s.toJson := by
  rw [readMembers, if_pos h]
  rfl

theorem map_fst_readMembers (s : CardStatus) : s.readMembers.map (·.1) = keys := rfl

/-- **The text of a record is read as its members**. -/
theorem read?_render_record (h : s.rate.IsDouble) :
    Json.read? s.render = some (.object s.readMembers) := by
  rw [render, Json.read?_render (hasDoubles_toJson h), asRead_toJson]

/-! ### Lists -/

theorem itemsHaveDoubles_map_toJson {records : List CardStatus}
    (h : ∀ s ∈ records, s.rate.IsDouble) : Json.ItemsHaveDoubles (records.map toJson) := by
  induction records with
  | nil => trivial
  | cons s records ih =>
    obtain ⟨hs, hrecords⟩ := List.forall_mem_cons.mp h
    exact ⟨hasDoubles_toJson hs, ih hrecords⟩

theorem asReadItems_map_toJson (records : List CardStatus) :
    Json.asReadItems (records.map toJson) = records.map fun s => .object s.readMembers := by
  induction records with
  | nil => rfl
  | cons s records ih =>
    rw [List.map_cons, Json.asReadItems, ih, asRead_toJson]
    rfl

/-- **The text of a list of records is read as the array of their members**. -/
theorem read?_render_listToJson {records : List CardStatus} (h : ∀ s ∈ records, s.rate.IsDouble) :
    Json.read? (listToJson records).render =
      some (.array (records.map fun s => .object s.readMembers)) := by
  have hdoubles : (listToJson records).HasDoubles := itemsHaveDoubles_map_toJson h
  rw [Json.read?_render hdoubles, listToJson, Json.asRead, asReadItems_map_toJson]

/-- Records with finite rates are read as they were written. -/
theorem map_object_readMembers {records : List CardStatus}
    (h : ∀ s ∈ records, s.rate.isFinite = true) :
    records.map (fun s => Json.object s.readMembers) = records.map toJson :=
  List.map_congr_left fun s hs => object_readMembers (h s hs)

/-! ### Checking again -/

theorem checkFields_readMembers (h : s.rate.isFinite = true) :
    checkFields (Value.ofJsonMembers s.readMembers) = .ok s := by
  rw [readMembers, if_pos h]
  rfl

theorem checkFields_readMembers_of_not_finite (h : s.rate.isFinite = false) :
    checkFields (Value.ofJsonMembers s.readMembers) =
      .error [⟨some "rate", .notANumber⟩] := by
  rw [readMembers, if_neg (by simp [h])]
  rfl

/-- **The object that is read is accepted as the same record** if the rate is finite; otherwise the
one fault is that the rate is no number. -/
theorem check_readMembers (s : CardStatus) :
    check (.ofJson (.object s.readMembers)) =
      if s.rate.isFinite then .ok s
      else .error ⟨"CardStatus", [⟨some "rate", .notANumber⟩]⟩ := by
  rw [Value.ofJson, check_object]
  split_ifs with h
  · rw [checkFields_readMembers h]
    rfl
  · rw [checkFields_readMembers_of_not_finite (Bool.eq_false_of_not_eq_true h)]
    rfl

end CardStatus

end CardHealth
