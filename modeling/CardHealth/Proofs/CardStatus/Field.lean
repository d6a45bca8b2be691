import CardHealth.Proofs.CardStatus.Check
import CardHealth.Proofs.Entries
import CardHealth.Proofs.Validation

/-!
# Records field by field

`Field.settle` says what becomes of each of the nine fields on its own: its key is missing, or the
value under its key is checked.  An object is a record if all fields are settled, and it is refused
for exactly those that are not, in their order (`check_object_cases`).  So the outcome depends on
the values under the nine keys alone (`check_object_congr`): neither other keys nor the order of the
keys matter (`check_object_of_perm`).
-/

namespace CardHealth.CardStatus

/-! ### The fields one by one -/

/-- A field of a record. -/
inductive Field where
  | id
  | name
  | data
  | lastUpdated
  | size
  | status
  | rate
  | numBadSectors
  | curRoundNum
  deriving DecidableEq

namespace Field

/-- The fields in their order. -/
def all : List Field :=
  [.id, .name, .data, .lastUpdated, .size, .status, .rate, .numBadSectors, .curRoundNum]

/-- The key of a field. -/
def key : Field → String
  | .id => "id"
  | .name => "name"
  | .data => "data"
  | .lastUpdated => "last_updated"
  | .size => "size"
  | .status => "status"
  | .rate => "rate"
  | .numBadSectors => "num_bad_sectors"
  | .curRoundNum => "cur_round_num"

/-- Checks a value for a field. -/
def check (f : Field) (value : Value) : Except Fault Value :=
  match f with
  | .name => value.toText.map .text
  | .data => (checkSectorMap value).map .text
  | .rate => value.toFloat.map .float
  | _ => value.toInt.map .int

/-- What becomes of a field under whose key there is a value, or none. -/
def settle (f : Field) : Option Value → Except Fault Value
  | some value => f.check value
  | none => .error .missing

theorem mem_all (f : Field) : f ∈ all := by
  cases f <;> decide

/-- The fields are in the order of the keys. -/
theorem map_key_all : all.map key = keys := rfl

theorem key_mem_keys (f : Field) : f.key ∈ keys := by
  rw [← map_key_all]
  exact List.mem_map_of_mem f.mem_all

end Field

/-- The value of one of the fields. -/
def get (s : CardStatus) : Field → Value
  | .id => .int s.id
  | .name => .text s.name
  | .data => .text s.data
  | .lastUpdated => .int s.lastUpdated
  | .size => .int s.size
  | .status => .int s.status
  | .rate => .float s.rate
  | .numBadSectors => .int s.numBadSectors
  | .curRoundNum => .int s.curRoundNum

theorem eq_of_get {s t : CardStatus} (h : ∀ f, s.get f = t.get f) : s = t := by
  obtain ⟨⟩ := s
  obtain ⟨⟩ := t
  obtain rfl := Value.int.inj (h .id)
  obtain rfl := Value.text.inj (h .name)
  obtain rfl := Value.text.inj (h .data)
  obtain rfl := Value.int.inj (h .lastUpdated)
  obtain rfl := Value.int.inj (h .size)
  obtain rfl := Value.int.inj (h .status)
  obtain rfl := Value.float.inj (h .rate)
  obtain rfl := Value.int.inj (h .numBadSectors)
  obtain rfl := Value.int.inj (h .curRoundNum)
  rfl

/-- What is wrong with the fields for which an object has these values, in order. -/
def faults (found : Field → Option Value) : List FieldFault :=
  Field.all.filterMap fun f =>
    (faultOf? (f.settle (found f))).map fun fault => ⟨some f.key, fault⟩

theorem faults_eq_collectFaults (found : Field → Option Value) :
    faults found =
      collectFaults (Field.all.map fun f => (f.key, faultOf? (f.settle (found f)))) := by
  rw [faults, collectFaults, List.filterMap_map]
  rfl

/-- A field is reported with its fault exactly if it has that fault. -/
theorem mem_faults_iff {found : Field → Option Value} {reported : FieldFault} :
    reported ∈ faults found ↔
      ∃ f : Field, ∃ fault, f.settle (found f) = .error fault ∧ reported = ⟨some f.key, fault⟩ := by
  unfold faults
  simp only [List.mem_filterMap, Option.map_eq_some_iff, faultOf?_eq_some_iff]
  constructor
  · rintro ⟨f, -, fault, hfault, rfl⟩
    exact ⟨f, fault, hfault, rfl⟩
  · rintro ⟨f, fault, hfault, rfl⟩
    exact ⟨f, f.mem_all, fault, hfault, rfl⟩

/-! ### Objects -/

variable {fields others : List (String × Value)} {found : Field → Option Value}

/-- A field of any type, as a value. -/
theorem settle_eq_map {α : Type} {f : Field} {check : Value → Except Fault α} {wrap : α → Value}
    (hcheck : ∀ value, f.check value = (check value).map wrap)
    (fields : List (String × Value)) :
    f.settle (lastNamed? f.key fields) = (requiredField check f.key fields).map wrap := by
  unfold requiredField
  cases lastNamed? f.key fields with
  | none => rfl
  | some value => exact hcheck value

/-- The fields as the check of an object settles them. -/
theorem settle_lastNamed? (fields : List (String × Value)) (f : Field) :
    f.settle (lastNamed? f.key fields) =
      match f with
      | .id => (requiredField Value.toInt "id" fields).map .int
      | .name => (requiredField Value.toText "name" fields).map .text
      | .data => (requiredField checkSectorMap "data" fields).map .text
      | .lastUpdated => (requiredField Value.toInt "last_updated" fields).map .int
      | .size => (requiredField Value.toInt "size" fields).map .int
      | .status => (requiredField Value.toInt "status" fields).map .int
      | .rate => (requiredField Value.toFloat "rate" fields).map .float
      | .numBadSectors => (requiredField Value.toInt "num_bad_sectors" fields).map .int
      | .curRoundNum => (requiredField Value.toInt "cur_round_num" fields).map .int := by
  cases f <;> exact settle_eq_map (fun _ => rfl) fields

theorem settle_of_checkFields {s : CardStatus} (h : checkFields fields = .ok s) (f : Field) :
    f.settle (lastNamed? f.key fields) = .ok (s.get f) := by
  have haccepted := (checkFields_eq_ok_iff fields s).mp h
  rw [settle_lastNamed?]
  cases f <;> simp [haccepted, get, Except.map]

/-- Fields that are all settled make a record. -/
theorem exists_checkFields_eq_ok
    (h : ∀ f : Field, ∃ value, f.settle (lastNamed? f.key fields) = .ok value) :
    ∃ s, checkFields fields = .ok s := by
  -- Each field gives its value in the type that the record has it in.
  simp only [settle_lastNamed?] at h
  obtain ⟨id, hid⟩ := exists_map_eq_ok_iff.mp (h .id)
  obtain ⟨name, hname⟩ := exists_map_eq_ok_iff.mp (h .name)
  obtain ⟨data, hdata⟩ := exists_map_eq_ok_iff.mp (h .data)
  obtain ⟨lastUpdated, hlastUpdated⟩ := exists_map_eq_ok_iff.mp (h .lastUpdated)
  obtain ⟨size, hsize⟩ := exists_map_eq_ok_iff.mp (h .size)
  obtain ⟨status, hstatus⟩ := exists_map_eq_ok_iff.mp (h .status)
  obtain ⟨rate, hrate⟩ := exists_map_eq_ok_iff.mp (h .rate)
  obtain ⟨numBadSectors, hnumBadSectors⟩ := exists_map_eq_ok_iff.mp (h .numBadSectors)
  obtain ⟨curRoundNum, hcurRoundNum⟩ := exists_map_eq_ok_iff.mp (h .curRoundNum)
  exact ⟨⟨id, name, data, lastUpdated, size, status, rate, numBadSectors, curRoundNum⟩,
    (checkFields_eq_ok_iff fields _).mpr ⟨hid, hname, hdata, hlastUpdated, hsize, hstatus, hrate,
      hnumBadSectors, hcurRoundNum⟩⟩

/-- What is found to be wrong is what is wrong with the fields one by one. -/
theorem eq_faults_of_checkFields {refused : List FieldFault}
    (h : checkFields fields = .error refused) :
    refused = faults fun f => lastNamed? f.key fields := by
  rw [faults_eq_collectFaults]
  simp only [Field.all, List.map_cons, List.map_nil, settle_lastNamed?, faultOf?_map]
  unfold checkFields at h
  dsimp only at h
  split at h
  · cases h
  · exact (Except.error.inj h).symm

/-- **An object is checked field by field**: it is a record if all fields are settled, and else it
is refused for all that is wrong. -/
theorem check_object_cases (fields : List (String × Value)) :
    (∃ s, check (.object fields) = .ok s ∧
      ∀ f : Field, f.settle (lastNamed? f.key fields) = .ok (s.get f)) ∨
    (∃ (f : Field) (fault : Fault), f.settle (lastNamed? f.key fields) = .error fault) ∧
      check (.object fields) =
        .error ⟨"CardStatus", faults fun f => lastNamed? f.key fields⟩ := by
  rw [check_object]
  cases hchecked : checkFields fields with
  | ok s => exact .inl ⟨s, rfl, settle_of_checkFields hchecked⟩
  | error refused =>
    right
    constructor
    · -- If every field were settled, there would have been a record.
      by_contra hnone
      push Not at hnone
      have hsettled (f : Field) : ∃ value, f.settle (lastNamed? f.key fields) = .ok value := by
        cases hf : f.settle (lastNamed? f.key fields) with
        | ok value => exact ⟨value, rfl⟩
        | error fault => exact absurd hf (hnone f fault)
      obtain ⟨s, hs⟩ := exists_checkFields_eq_ok hsettled
      rw [hs] at hchecked
      cases hchecked
    · rw [eq_faults_of_checkFields hchecked]
      rfl

/-- An object is a record exactly if its fields are settled as those of the record. -/
theorem check_object_eq_ok_iff_settle (fields : List (String × Value)) (s : CardStatus) :
    check (.object fields) = .ok s ↔
      ∀ f : Field, f.settle (lastNamed? f.key fields) = .ok (s.get f) := by
  rcases check_object_cases fields with ⟨t, ht, hsettled⟩ | ⟨⟨f, fault, hfault⟩, hrefused⟩
  · rw [ht]
    constructor
    · intro h
      obtain rfl := Except.ok.inj h
      exact hsettled
    · intro h
      have hget (f : Field) : t.get f = s.get f := Except.ok.inj ((hsettled f).symm.trans (h f))
      rw [eq_of_get hget]
  · rw [hrefused]
    constructor
    · intro h
      cases h
    · intro h
      cases hfault.symm.trans (h f)

/-- An object is refused exactly if a field is not settled, and for all that is wrong. -/
theorem check_object_eq_error_iff (fields : List (String × Value)) (refusal : Refusal) :
    check (.object fields) = .error refusal ↔
      (∃ (f : Field) (fault : Fault), f.settle (lastNamed? f.key fields) = .error fault) ∧
        refusal = ⟨"CardStatus", faults fun f => lastNamed? f.key fields⟩ := by
  rcases check_object_cases fields with ⟨s, hs, hsettled⟩ | ⟨hfaults, hrefused⟩
  · rw [hs]
    constructor
    · intro h
      cases h
    · rintro ⟨⟨f, fault, hfault⟩, -⟩
      cases hfault.symm.trans (hsettled f)
  · rw [hrefused]
    constructor
    · intro h
      exact ⟨hfaults, (Except.error.inj h).symm⟩
    · rintro ⟨-, rfl⟩
      rfl

/-- **An object is a record exactly if each field is accepted on its own**. -/
theorem exists_check_object_iff (fields : List (String × Value)) :
    (∃ s, check (.object fields) = .ok s) ↔
      ∀ f : Field, ∃ value, f.settle (lastNamed? f.key fields) = .ok value := by
  constructor
  · rintro ⟨s, hs⟩ f
    exact ⟨s.get f, (check_object_eq_ok_iff_settle fields s).mp hs f⟩
  · intro h
    obtain ⟨s, hs⟩ := exists_checkFields_eq_ok h
    exact ⟨s, (check_object_eq_ok_iff fields s).mpr hs⟩

/-! ### Other keys, and the order of keys -/

/-- **The outcome depends on the values under the nine keys alone**. -/
theorem check_object_congr
    (h : ∀ f : Field, lastNamed? f.key others = lastNamed? f.key fields) :
    check (.object others) = check (.object fields) := by
  cases hchecked : check (.object fields) with
  | ok s =>
    rw [check_object_eq_ok_iff_settle]
    intro f
    rw [h f]
    exact (check_object_eq_ok_iff_settle fields s).mp hchecked f
  | error refusal =>
    obtain ⟨⟨f, fault, hfault⟩, rfl⟩ := (check_object_eq_error_iff fields refusal).mp hchecked
    rw [check_object_eq_error_iff]
    refine ⟨⟨f, fault, ?_⟩, ?_⟩
    · rw [h f]
      exact hfault
    · simp only [h]

/-- The fields of an object whose keys are those of records. -/
def known (fields : List (String × Value)) : List (String × Value) :=
  fields.filter fun field => field.1 ∈ keys

theorem lastNamed?_known (fields : List (String × Value)) (f : Field) :
    lastNamed? f.key (known fields) = lastNamed? f.key fields := by
  unfold lastNamed? known
  rw [← List.filter_reverse, List.find?_filter]
  congr 2
  funext field
  by_cases hname : field.1 = f.key
  · simp [hname, f.key_mem_keys]
  · simp [hname]

/-- **Neither other keys nor the order of the keys matter**, in an object whose keys are
distinct. -/
theorem check_object_of_perm (hdistinct : ((known fields).map (·.1)).Nodup)
    (h : (known others).Perm (known fields)) : check (.object others) = check (.object fields) := by
  apply check_object_congr
  intro f
  rw [← lastNamed?_known others, ← lastNamed?_known fields]
  have hdistinct' : ((known others).map (·.1)).Nodup := (h.map (·.1)).nodup_iff.mpr hdistinct
  cases hvalue : lastNamed? f.key (known fields) with
  | some value => exact lastNamed?_of_nodup hdistinct' (h.mem_iff.mpr (mem_of_lastNamed? hvalue))
  | none =>
    rw [lastNamed?_eq_none_iff] at hvalue ⊢
    intro field hfield
    exact hvalue field (h.mem_iff.mp hfield)

end CardHealth.CardStatus
