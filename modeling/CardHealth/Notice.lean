import CardHealth.Validation

/-!
# One-field notices

The two small records the service sends beside card records: the error notice and the health notice.
Each has a single text field.
-/

namespace CardHealth

/-- A record with one text field. -/
structure NoticeKind where
  /-- The name of the kind of record. -/
  record : String
  /-- The key of its field. -/
  key : String

namespace NoticeKind

/-- What is sent when the service fails. -/
def error : NoticeKind := ⟨"ErrorResponse", "error"⟩

/-- What is sent to say that the service runs. -/
def health : NoticeKind := ⟨"HealthStatus", "status"⟩

/-- Checks a notice and gives its text. -/
def check (kind : NoticeKind) : Value → Except Refusal String
  | .object fields =>
    match requiredField Value.toText kind.key fields with
    | .ok text => .ok text
    | .error fault => .error ⟨kind.record, [⟨some kind.key, fault⟩]⟩
  | _ => .error ⟨kind.record, [⟨none, .notARecord kind.record⟩]⟩

/-- The JSON object of a notice. -/
def toJson (kind : NoticeKind) (text : String) : Json :=
  .object [(kind.key, .string text)]

end NoticeKind

end CardHealth
