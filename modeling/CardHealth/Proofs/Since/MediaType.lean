import CardHealth.Proofs.Since.Source

/-!
# The spelling of the media type

The content type is looked at twice: whether it begins like that of a form, and what its head and
its parameters are.  Both are told without regard to the case of the media type, so a form whose
media type is spelled in another case is read in the same way (`read_of_mediaType`).
-/

namespace CardHealth.Since

open Http Form

/-- **The spelling of a media type does not matter**.  A form whose media type is spelled in any
case, with any parameters, gives the same as one whose media type is in small letters.  Its bound is
the one in the form, or that there is none in it, unless its parameters cannot be read. -/
theorem read_of_mediaType (spelled lowered : Request) (media parameters : String)
    (hmedia : IsFormType (Text.lowerAscii media))
    (hparameters : parameters = "" ∨ ∃ rest, parameters = ";" ++ rest)
    (hnone : inQuery? spelled = none) (hquery : lowered.query = spelled.query)
    (hbody : lowered.body = spelled.body)
    (hspelled : spelled.header? "content-type" = some (media ++ parameters))
    (hlowered : lowered.header? "content-type" = some (Text.lowerAscii media ++ parameters)) :
    read spelled = read lowered ∧
      read spelled =
        match HeaderValue.read (Text.lowerAscii media ++ parameters) with
        | .error e => .error (.form e)
        | .ok header => resolve <|
          if Text.lowerAscii media = multipartType then inMultipart? header spelled.body
          else inUrlEncoded? spelled.body := by
  have hnone' : inQuery? lowered = none := by
    rw [← hnone, inQuery?, inQuery?, hquery]
  have hsame : source? spelled = source? lowered := by
    rw [source?_of_formType hnone hmedia hparameters hspelled,
      source?_of_formType hnone' hmedia.lowerAscii hparameters hlowered,
      HeaderValue.read_lowerAscii_append hmedia.isPlain hparameters, hbody]
  refine ⟨by rw [read_eq_resolve, read_eq_resolve, hsame], ?_⟩
  rw [read_eq_resolve, hsame,
    source?_of_formType hnone' hmedia.lowerAscii hparameters hlowered, hbody]
  cases hread : HeaderValue.read (Text.lowerAscii media ++ parameters) with
  | error e => rfl
  | ok header =>
    have hhead := HeaderValue.head_of_read_append hmedia.isPlain hparameters hread
    rw [hmedia.lowerAscii_eq] at hhead
    dsimp only
    rw [inFormOf?, hhead]

/-- The media type of URL-encoded forms with some capitals. -/
def mixedCaseType : String := "Application/X-WWW-Form-URLEncoded"

theorem lowerAscii_mixedCaseType : Text.lowerAscii mixedCaseType = urlEncodedType := by
  decide

theorem read_of_mediaType_small :
    read (sending (mixedCaseType ++ "; charset=utf-8") (Bytes.ofLatin1 "since=5")) = .ok (some 5) ∧
      read (sending (urlEncodedType ++ "; charset=utf-8") (Bytes.ofLatin1 "since=5")) =
        .ok (some 5) := by
  have hlowered : (sending (urlEncodedType ++ "; charset=utf-8")
      (Bytes.ofLatin1 "since=5")).header? "content-type"
        = some (Text.lowerAscii mixedCaseType ++ "; charset=utf-8") := by
    rw [header?_sending, lowerAscii_mixedCaseType]
  obtain ⟨hsame, hform⟩ := read_of_mediaType
    (sending (mixedCaseType ++ "; charset=utf-8") (Bytes.ofLatin1 "since=5"))
    (sending (urlEncodedType ++ "; charset=utf-8") (Bytes.ofLatin1 "since=5"))
    mixedCaseType "; charset=utf-8" (.inl lowerAscii_mixedCaseType) (.inr ⟨" charset=utf-8", rfl⟩)
    (inQuery?_sending _ _) rfl rfl (header?_sending _ _) hlowered
  have hheader : HeaderValue.read (urlEncodedType ++ "; charset=utf-8")
      = .ok ⟨urlEncodedType, [("charset", "utf-8")]⟩ := by
    decide +kernel
  have hbody : resolve (inUrlEncoded? (Bytes.ofLatin1 "since=5")) = .ok (some 5) := by
    decide +kernel
  have hfive : read (sending (mixedCaseType ++ "; charset=utf-8") (Bytes.ofLatin1 "since=5"))
      = .ok (some 5) := by
    rw [hform, lowerAscii_mixedCaseType, hheader]
    dsimp only
    rw [if_neg (by decide)]
    exact hbody
  exact ⟨hfive, hsame.symm.trans hfive⟩

end CardHealth.Since
