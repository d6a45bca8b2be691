import CardHealth.CardStatus

/-!
# Accepted records

`CardStatus.check` accepts an object exactly when each of the nine fields is accepted on its own,
and the record holds what the fields came to (`check_object_eq_ok_iff`).
-/

namespace CardHealth.CardStatus

theorem check_object (fields : List (String × Value)) :
    check (.object fields) = (checkFields fields).mapError (⟨"CardStatus", ·⟩) := by
  rw [check]
  cases checkFields fields <;> rfl

theorem checkFields_eq_ok_iff (fields : List (String × Value)) (s : CardStatus) :
    checkFields fields = .ok s ↔
      requiredField Value.toInt "id" fields = .ok s.id ∧
      requiredField Value.toText "name" fields = .ok s.name ∧
      requiredField checkSectorMap "data" fields = .ok s.data ∧
      requiredField Value.toInt "last_updated" fields = .ok s.lastUpdated ∧
      requiredField Value.toInt "size" fields = .ok s.size ∧
      requiredField Value.toInt "status" fields = .ok s.status ∧
      requiredField Value.toFloat "rate" fields = .ok s.rate ∧
      requiredField Value.toInt "num_bad_sectors" fields = .ok s.numBadSectors ∧
      requiredField Value.toInt "cur_round_num" fields = .ok s.curRoundNum := by
  unfold checkFields
  dsimp only
  constructor
  · intro h
    split at h
    · rename_i h1 h2 h3 h4 h5 h6 h7 h8 h9
      cases h
      exact ⟨h1, h2, h3, h4, h5, h6, h7, h8, h9⟩
    · cases h
  · rintro ⟨h1, h2, h3, h4, h5, h6, h7, h8, h9⟩
    rw [h1, h2, h3, h4, h5, h6, h7, h8, h9]

/-- **A record is accepted field by field**. -/
theorem check_object_eq_ok_iff (fields : List (String × Value)) (s : CardStatus) :
    check (.object fields) = .ok s ↔ checkFields fields = .ok s := by
  rw [check_object]
  cases checkFields fields with
  | ok record =>
    constructor <;> rintro ⟨⟩
    · rfl
    · rfl
  | error faults => constructor <;> rintro ⟨⟩

end CardHealth.CardStatus
