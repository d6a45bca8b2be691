import CardHealth.Proofs.Form.UrlEncoded
import CardHealth.Proofs.Since.Source

/-!
# A bound in the query and a bound in a form

The same bytes as the query and as a URL-encoded form give the same bound, as long as the form has
no more fields than a form may have (`read_form_agrees_query`).
-/

namespace CardHealth.Since

open Http Form

/-- A query holds at most a text. -/
theorem resolve_inQuery? (r : Request) :
    (∃ since, resolve (.ok (inQuery? r)) = .ok since) ∨
      resolve (.ok (inQuery? r)) = .error .notAnInteger := by
  rw [inQuery?]
  cases lastNamed? fieldName (UrlEncoded.fields (Bytes.toLatin1 r.query)) with
  | none => exact .inl ⟨none, rfl⟩
  | some s =>
    show (∃ since, (Source.toInt (.text s)).map some = .ok since) ∨
      (Source.toInt (.text s)).map some = .error .notAnInteger
    rw [Source.toInt]
    cases Numeral.read s.toList with
    | ok n => exact .inl ⟨some n, rfl⟩
    | error e => exact .inr rfl

/-- **The same bytes in a query and in a form**.  A query gives a bound, none, or that it is no
integer.  A form with these bytes gives the same, unless it has too many fields: then it is
refused. -/
theorem read_form_agrees_query (inQuery inForm : Request) (hquery : offersForm inQuery = false)
    (hnone : inForm.query = []) (htype : inForm.header? "content-type" = some urlEncodedType)
    (hbytes : inForm.body = inQuery.query) :
    ((∃ since, read inQuery = .ok since) ∨ read inQuery = .error .notAnInteger) ∧
      read inForm =
        if (UrlEncoded.fields (Bytes.toLatin1 inQuery.query)).length ≤ maxFields then read inQuery
        else .error (.form .tooManyFields) := by
  have hread : read inQuery = resolve (.ok (inQuery? inQuery)) := by
    rw [read_eq_resolve, source?_of_not_offersForm hquery]
  refine ⟨hread ▸ resolve_inQuery? inQuery, ?_⟩
  rw [hread, read_eq_resolve, source?_of_urlEncoded (inQuery?_of_nil hnone) htype, inUrlEncoded?,
    hbytes, UrlEncoded.bodyFields_eq_fields, inQuery?]
  split_ifs with hmany hfew hfew
  · omega
  · rfl
  · rfl
  · omega

/-- Some bytes after as many short fields. -/
def crowd (after : Bytes) : Nat → Bytes
  | 0 => after
  | n + 1 => 97 :: UrlEncoded.ampersand :: crowd after n

theorem length_fields_crowd (after : Bytes) (n : Nat) :
    (UrlEncoded.fields (Bytes.toLatin1 (crowd after n))).length =
      n + (UrlEncoded.fields (Bytes.toLatin1 after)).length := by
  induction n with
  | zero => simp [crowd]
  | succ n ih =>
    have htext : Bytes.toLatin1 (crowd after (n + 1))
        = ['a'] ++ '&' :: Bytes.toLatin1 (crowd after n) := rfl
    have hone : (UrlEncoded.fields ['a']).length = 1 := by
      rw [UrlEncoded.fields_of_not_mem (by simp) (by decide), List.length_singleton]
    rw [htext, UrlEncoded.fields_append_amp, List.length_append, hone, ih]
    omega

/-- A bound after as many fields as a form may have. -/
def crowded : Bytes :=
  crowd (Bytes.ofLatin1 "since=5") maxFields

theorem maxFields_lt_length_fields_crowded :
    maxFields < (UrlEncoded.fields (Bytes.toLatin1 crowded)).length := by
  have hone : (UrlEncoded.fields (Bytes.toLatin1 (Bytes.ofLatin1 "since=5"))).length = 1 := by
    decide
  rw [crowded, length_fields_crowd, hone]
  exact Nat.lt_succ_self _

theorem read_form_agrees_query_small :
    read (sending urlEncodedType (Bytes.ofLatin1 "%73ince&since=+8+")) = .ok (some 8) ∧
      read (sending urlEncodedType crowded) = .error (.form .tooManyFields) := by
  have hfew := (read_form_agrees_query (querying (Bytes.ofLatin1 "%73ince&since=+8+"))
    (sending urlEncodedType (Bytes.ofLatin1 "%73ince&since=+8+")) (offersForm_querying _) rfl
    (header?_sending _ _) rfl).2
  have hmany := (read_form_agrees_query (querying crowded) (sending urlEncodedType crowded)
    (offersForm_querying _) rfl (header?_sending _ _) rfl).2
  refine ⟨?_, ?_⟩
  · rw [hfew]
    decide +kernel
  · exact hmany.trans (if_neg (Nat.not_le.mpr maxFields_lt_length_fields_crowded))

/-- A query may have more fields than a form. -/
theorem not_forall_read_form_eq_read_query :
    ¬ ∀ b : Bytes, read (sending urlEncodedType b) = read (querying b) := by
  intro h
  have hform : read (sending urlEncodedType crowded) = .error (.form .tooManyFields) := by
    rw [read_eq_resolve, source?_of_urlEncoded (inQuery?_sending _ _) (header?_sending _ _),
      inUrlEncoded?, UrlEncoded.bodyFields_eq_fields]
    exact congrArg resolve (if_pos maxFields_lt_length_fields_crowded)
  have hquery : read (querying crowded) ≠ .error (.form .tooManyFields) := by
    rw [read_eq_resolve, source?_of_not_offersForm (offersForm_querying _)]
    rcases resolve_inQuery? (querying crowded) with ⟨since, hsince⟩ | hsince
    · simp [hsince]
    · simp [hsince]
  exact hquery ((h crowded).symm.trans hform)

end CardHealth.Since
