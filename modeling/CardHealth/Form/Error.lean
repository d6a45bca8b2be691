/-!
# Faults of form bodies
-/

namespace CardHealth.Form

/-- The greatest number of text fields, and the greatest number of files, of a form. -/
def maxFields : Nat := 1000

/-- The greatest number of bytes in a text field of a multipart form. -/
def maxPartSize : Nat := 1024 * 1024

/-- Why a form body cannot be read. -/
inductive Error where
  | missingBoundary
  | malformed
  /-- A part does not say which field it is. -/
  | unnamedPart
  | tooManyFields
  | tooManyFiles
  | oversizedPart
  /-- A header parameter has numbered parts and others: whether the first one has a number. -/
  | mixedParts (firstIsNumbered : Bool)
  deriving DecidableEq, Repr

/-- The message about a body that cannot be read. -/
def Error.message : Error → String
  | .missingBoundary => "Missing boundary in multipart."
  | .malformed => "Invalid multipart data."
  | .unnamedPart => "The Content-Disposition header field \"name\" must be provided."
  | .tooManyFields => s!"Too many fields. Maximum number of fields is {maxFields}."
  | .tooManyFiles => s!"Too many files. Maximum number of files is {maxFields}."
  | .oversizedPart => s!"Part exceeded maximum size of {maxPartSize / 1024}KB."
  | .mixedParts firstIsNumbered =>
    let kinds := if firstIsNumbered then "'NoneType' and 'int'" else "'int' and 'NoneType'"
    s!"'<' not supported between instances of {kinds}"

end CardHealth.Form
