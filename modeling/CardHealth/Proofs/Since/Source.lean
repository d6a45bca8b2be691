import CardHealth.Proofs.Form.HeaderValue
import CardHealth.Since

/-!
# Where the bound of a request is found

In the query if it has the field, and otherwise in a form.  What kind of form there is follows from
the media type at the beginning of the content type, in any letter case and with or without
parameters (`source?_of_formType`).
-/

namespace CardHealth.Since

open Http Form

/-! ### Where the bound is looked for -/

/-- The bound that a field denotes, if there is a field. -/
def resolve : Except Error (Option Source) → Except Error (Option Int)
  | .error e => .error e
  | .ok none => .ok none
  | .ok (some source) => source.toInt.map some

theorem read_eq_resolve (r : Request) : read r = resolve (source? r) := by
  rw [read]
  cases source? r with
  | error e => rfl
  | ok found => cases found <;> rfl

/-- Whether the content type of a request begins like that of a form. -/
def offersForm (r : Request) : Bool :=
  startsFormType ((r.header? "content-type").getD "")

variable {r : Request}

theorem source?_of_inQuery? {source : Source} (h : inQuery? r = some source) :
    source? r = .ok (some source) := by
  rw [source?, h]

theorem source?_of_not_offersForm (h : offersForm r = false) : source? r = .ok (inQuery? r) := by
  rw [source?]
  cases inQuery? r with
  | some source => rfl
  | none => exact if_neg (ne_true_of_eq_false h)

theorem source?_of_offersForm (hquery : inQuery? r = none) (h : offersForm r = true) :
    source? r = inForm? ((r.header? "content-type").getD "") r.body := by
  rw [source?, hquery]
  exact if_pos h

theorem inQuery?_of_nil (h : r.query = []) : inQuery? r = none := by
  rw [inQuery?, h]
  rfl

/-- What `source?` looks at. -/
theorem source?_congr {q : Request} (hquery : r.query = q.query) (hbody : r.body = q.body)
    (htype : r.header? "content-type" = q.header? "content-type") : source? r = source? q := by
  simp only [source?, inQuery?, hquery, hbody, htype]

/-! ### Media types -/

/-- Whether a text is the media type of a form, in small letters. -/
def IsFormType (media : String) : Prop :=
  media = urlEncodedType ∨ media = multipartType

namespace IsFormType

variable {media : String}

/-- The media types have no marks in them. -/
theorem isPlain (h : IsFormType media) : ∀ c ∈ media.toList, HeaderValue.isPlain c = true := by
  rcases h with rfl | rfl
  · exact List.all_eq_true.mp (by decide)
  · exact List.all_eq_true.mp (by decide)

theorem lowerAscii_eq (h : IsFormType media) : Text.lowerAscii media = media := by
  rcases h with rfl | rfl <;> decide

theorem lowerAscii (h : IsFormType media) : IsFormType (Text.lowerAscii media) := by
  rwa [h.lowerAscii_eq]

end IsFormType

theorem startsFormType_append {media : String} (h : IsFormType (Text.lowerAscii media))
    (parameters : String) : startsFormType (media ++ parameters) = true := by
  have hprefix : (Text.lowerAscii media).toList.isPrefixOf
      ((media ++ parameters).toList.map Text.lowerAsciiChar) = true := by
    rw [Text.lowerAscii, String.toList_ofList, String.toList_append, List.map_append,
      List.isPrefixOf_iff_prefix]
    exact List.prefix_append _ _
  rw [startsFormType, Bool.or_eq_true_iff]
  rcases h with hmedia | hmedia
  · exact .inl (hmedia ▸ hprefix)
  · exact .inr (hmedia ▸ hprefix)

/-! ### Forms -/

/-- The field in a form of a content type. -/
def inFormOf? (header : HeaderValue) (body : Bytes) : Except Error (Option Source) :=
  if header.head = multipartType then inMultipart? header body else inUrlEncoded? body

/-- **A form is looked into whatever the case of its media type**, unless its parameters cannot be
read. -/
theorem source?_of_formType {media parameters : String} (hnone : inQuery? r = none)
    (hmedia : IsFormType (Text.lowerAscii media))
    (hparameters : HeaderValue.AreParameters parameters)
    (htype : r.header? "content-type" = some (media ++ parameters)) :
    source? r =
      match HeaderValue.read (media ++ parameters) with
      | .error e => .error (.form e)
      | .ok header => inFormOf? header r.body := by
  have hoffers : offersForm r = true := by
    rw [offersForm, htype, Option.getD_some, startsFormType_append hmedia]
  have hplain := HeaderValue.forall_isPlain_of_lowerAscii hmedia.isPlain
  rw [source?_of_offersForm hnone hoffers, htype, Option.getD_some, inForm?]
  cases hread : HeaderValue.read (media ++ parameters) with
  | error e => rfl
  | ok header =>
    have hhead := HeaderValue.head_of_read_append hplain hparameters hread
    dsimp only
    rw [inFormOf?, hhead]
    simp only [beq_iff_eq]
    -- The head is one of the two media types, so the body is read in one of the two ways.
    split_ifs with hmulti hurl
    · rfl
    · rfl
    · exact absurd (hmedia.resolve_right hmulti) hurl

theorem source?_of_urlEncoded (hnone : inQuery? r = none)
    (htype : r.header? "content-type" = some urlEncodedType) :
    source? r = inUrlEncoded? r.body := by
  have hmedia : IsFormType urlEncodedType := .inl rfl
  have hbare : r.header? "content-type" = some (urlEncodedType ++ "") := by
    rw [htype, String.append_empty]
  rw [source?_of_formType hnone hmedia.lowerAscii (.inl rfl) hbare, String.append_empty,
    HeaderValue.read_of_isPlain hmedia.isPlain, hmedia.lowerAscii_eq]
  exact if_neg (by decide)

theorem source?_of_multipart {parameters : String} {named : List (String × String)}
    (hnone : inQuery? r = none)
    (htype : r.header? "content-type" = some (multipartType ++ ";" ++ parameters))
    (hnamed : HeaderValue.readParameters parameters.toList = .ok named) :
    source? r = inMultipart? ⟨multipartType, named⟩ r.body := by
  have hmedia : IsFormType multipartType := .inr rfl
  rw [String.append_assoc] at htype
  rw [source?_of_formType hnone hmedia.lowerAscii (.inr ⟨_, rfl⟩) htype, ← String.append_assoc,
    HeaderValue.read_append_semicolon hmedia.isPlain, hnamed, hmedia.lowerAscii_eq]
  exact if_pos rfl

/-! ### Plain requests -/

/-- A request with these bytes as its query. -/
def querying (b : Bytes) : Request :=
  ⟨"GET", "/api/data", b, [], []⟩

/-- A request with a form of a content type. -/
def sending (contentType : String) (b : Bytes) : Request :=
  ⟨"POST", "/api/data", [], [("content-type", contentType)], b⟩

theorem offersForm_querying (b : Bytes) : offersForm (querying b) = false := by
  show startsFormType "" = false
  decide

theorem header?_sending (contentType : String) (b : Bytes) :
    (sending contentType b).header? "content-type" = some contentType :=
  rfl

theorem inQuery?_sending (contentType : String) (b : Bytes) :
    inQuery? (sending contentType b) = none :=
  inQuery?_of_nil rfl

end CardHealth.Since
