import CardHealth.Config.DatabaseUrl
import CardHealth.Proofs.Numeral.Digits
import CardHealth.Proofs.Numeral.Grammar
import CardHealth.Proofs.Text.Mark
import CardHealth.Proofs.Text.Percent

/-!
# Reading a written address

An address without options is read back from its text (`parse_render`), if its host is a plain one
and its port is not too long to be read.

The text is read from left to right, and each component is taken off up to a mark.  A lemma for each
`take…` says that the component is had again whatever comes after it, provided that the mark is
none of its characters: a user name, a password and the name of a database are escaped, a port has
digits and maybe a sign, and the characters of a host are restricted by `IsPlainHost`.
-/

namespace CardHealth.Config.DatabaseUrl

/-! ### Plain addresses -/

/-- A host without the marks that divide addresses.  Letters and digits of any script, points,
hyphens and underscores are no such marks. -/
def IsPlainHost (host : String) : Prop :=
  host ≠ "" ∧ ∀ c ∈ host.toList, c ∉ ['/', ':', '?', '@', '[']

instance : DecidablePred IsPlainHost :=
  fun host => decidable_of_iff
    (host ≠ "" ∧ host.toList.all fun c => decide (c ∉ ['/', ':', '?', '@', '[']))
    (by simp [IsPlainHost])

/-- A character of the name of a driver. -/
def isDriverChar (c : Char) : Bool :=
  Text.isWord c || c == '+'

/-- An address that can be told from its text.  Its user name, its password and its database may be
any texts. -/
structure IsPlain (u : DatabaseUrl) : Prop where
  driver_ne : u.driver ≠ ""
  driver : ∀ c ∈ u.driver.toList, isDriverChar c = true
  /-- A password is written after a user name. -/
  password : u.user = none → u.password = none
  host : ∀ host ∈ u.host, IsPlainHost host
  port : ∀ port ∈ u.port, port.natAbs < 10 ^ Numeral.maxDigits
  query : u.query = []

/-! ### The last of several marks -/

theorem splitLast?_of_not_mem {c : Char} {s : List Char} (h : c ∉ s) : splitLast? c s = none := by
  simp [splitLast?, h]

theorem splitLast?_append {c : Char} {t : List Char} (h : c ∉ t) (s : List Char) :
    splitLast? c (s ++ c :: t) = some (s, t) := by
  have hafter : ((s ++ c :: t).reverse.takeWhile (· != c)).reverse = t := by
    have hreverse : (s ++ c :: t).reverse = t.reverse ++ c :: s.reverse := by simp
    rw [hreverse, Text.takeWhile_bne_append (mt List.mem_reverse.mp h), List.reverse_reverse]
  have hlength : (s ++ c :: t).length - t.length - 1 = s.length := by
    simp only [List.length_append, List.length_cons]
    omega
  have hcontains : (s ++ c :: t).contains c = true := by simp
  rw [splitLast?, if_pos hcontains]
  simp only [hafter, hlength, List.take_left]

/-! ### User names and passwords -/

section Credentials

variable {user password rest : List Char}

/-- A character of a user name that is not escaped. -/
def isUserChar (c : Char) : Bool :=
  c != ':' && c != '/'

/-- Takes a user name without a password off a text. -/
def takeUser (s : List Char) : Option (List Char) × Option (List Char) × List Char :=
  match splitLast? '@' (s.takeWhile isUserChar) with
  | some (user, rest) => (some user, none, rest ++ s.dropWhile isUserChar)
  | none => (none, none, s)

/-- There is a password where a colon ends the user name and an at sign comes after it. -/
theorem takeCredentials_of_colon {s after : List Char}
    (hcolon : s.dropWhile isUserChar = ':' :: after) (hpassword : '@' ∉ password)
    (hafter : after = password ++ '@' :: rest) :
    takeCredentials s = (some (s.takeWhile isUserChar), some password, rest) := by
  unfold takeCredentials
  have hfold : s.dropWhile (fun c => c != ':' && c != '/') = ':' :: after := hcolon
  simp only [hfold, hafter, Text.takeWhile_bne_append hpassword,
    Text.dropWhile_bne_append hpassword]
  rfl

/-- There is none where no at sign comes after a colon. -/
theorem takeCredentials_of_not_mem_dropWhile {s : List Char}
    (h : '@' ∉ s.dropWhile isUserChar) : takeCredentials s = takeUser s := by
  unfold takeCredentials
  dsimp only
  split
  · rename_i after hcolon
    have hafter : '@' ∉ after := by
      intro hmem
      have hfold : s.dropWhile isUserChar = ':' :: after := hcolon
      rw [hfold] at h
      exact h (List.mem_cons_of_mem _ hmem)
    rw [Text.dropWhile_bne_of_not_mem hafter]
    rfl
  · rfl

theorem takeUser_of_not_mem (h : '@' ∉ rest) : takeUser rest = (none, none, rest) := by
  have hnone : splitLast? '@' (rest.takeWhile isUserChar) = none :=
    splitLast?_of_not_mem fun hmem => h ((List.takeWhile_prefix _).mem hmem)
  rw [takeUser, hnone]

theorem takeUser_append (huser : ∀ c ∈ user, isUserChar c = true) (h : '@' ∉ rest) :
    takeUser (user ++ '@' :: rest) = (some user, none, rest) := by
  have htake : (user ++ '@' :: rest).takeWhile isUserChar =
      user ++ '@' :: rest.takeWhile isUserChar := by
    rw [List.takeWhile_append_of_pos huser, List.takeWhile_cons_of_pos (by decide)]
  have hdrop : (user ++ '@' :: rest).dropWhile isUserChar = rest.dropWhile isUserChar := by
    rw [List.dropWhile_append_of_pos huser, List.dropWhile_cons_of_pos (by decide)]
  have hname : '@' ∉ rest.takeWhile isUserChar :=
    fun hmem => h ((List.takeWhile_prefix _).mem hmem)
  rw [takeUser, htake, hdrop, splitLast?_append hname]
  dsimp only
  rw [List.takeWhile_append_dropWhile]

/-- The escaped text of a user name or a password. -/
def credentialText (s : String) : List Char :=
  (Text.percentEncode isCredentialChar s).toList

theorem not_mem_credentialText {mark : Char} (h : mark ∈ [':', '/', '@']) (s : String) :
    mark ∉ credentialText s := by
  simp only [List.mem_cons, List.not_mem_nil, or_false] at h
  rcases h with rfl | rfl | rfl <;>
    exact Text.not_mem_percentEncode (by decide) (by decide) (by decide) s

theorem isUserChar_credentialText (s : String) :
    ∀ c ∈ credentialText s, isUserChar c = true := by
  intro c hc
  have hcolon : c ≠ ':' := fun h => not_mem_credentialText (by simp) s (h ▸ hc)
  have hslash : c ≠ '/' := fun h => not_mem_credentialText (by simp) s (h ▸ hc)
  simp [isUserChar, hcolon, hslash]

/-- **A user name and a password are taken off as they were written**. -/
theorem takeCredentials_renderCredentials {user password : Option String}
    (hpassword : user = none → password = none) (h : '@' ∉ rest) :
    takeCredentials
        ((renderCredentials user (password.map (Text.percentEncode isCredentialChar))).toList ++
          rest) =
      (user.map credentialText, password.map credentialText, rest) := by
  have hdrop {s : List Char} (hs : '@' ∉ s) : '@' ∉ s.dropWhile isUserChar :=
    fun hmem => hs ((List.dropWhile_suffix _).mem hmem)
  cases user with
  | none =>
    rw [hpassword rfl]
    show takeCredentials rest = (none, none, rest)
    rw [takeCredentials_of_not_mem_dropWhile (hdrop h), takeUser_of_not_mem h]
  | some user =>
    have huser := isUserChar_credentialText user
    cases password with
    | none =>
      have htext : (renderCredentials (some user) none).toList ++ rest =
          credentialText user ++ '@' :: rest := by
        simp [renderCredentials, credentialText]
      have hrest : '@' ∉ (credentialText user ++ '@' :: rest).dropWhile isUserChar := by
        rw [List.dropWhile_append_of_pos huser, List.dropWhile_cons_of_pos (by decide)]
        exact hdrop h
      rw [Option.map_none, htext, takeCredentials_of_not_mem_dropWhile hrest,
        takeUser_append huser h]
      rfl
    | some password =>
      have htext :
          (renderCredentials (some user)
            (some (Text.percentEncode isCredentialChar password))).toList ++ rest =
          credentialText user ++ ':' :: (credentialText password ++ '@' :: rest) := by
        simp [renderCredentials, credentialText]
      have hcolon :
          (credentialText user ++ ':' :: (credentialText password ++ '@' :: rest)).dropWhile
            isUserChar = ':' :: (credentialText password ++ '@' :: rest) :=
        Text.dropWhile_append_of_head huser (by simp [isUserChar])
      have hname :
          (credentialText user ++ ':' :: (credentialText password ++ '@' :: rest)).takeWhile
            isUserChar = credentialText user :=
        Text.takeWhile_append_of_head huser (by simp [isUserChar])
      rw [Option.map_some, htext, takeCredentials_of_colon hcolon
        (not_mem_credentialText (by simp) password) rfl, hname]
      rfl

end Credentials

/-! ### Hosts -/

section Host

variable {rest : List Char}

/-- A character of a host that does not stand between brackets. -/
def isHostChar (c : Char) : Bool :=
  c != '/' && c != ':' && c != '?'

theorem renderHost_of_isPlainHost {host : String} (h : IsPlainHost host) :
    renderHost host = host := by
  have hcolon : ':' ∉ host.toList := fun hmem => h.2 ':' hmem (by simp)
  simp [renderHost, hcolon]

theorem takeBracketed?_of_head {s : List Char} (h : ∀ c ∈ s.head?, c ≠ '[') :
    takeBracketed? s = none := by
  unfold takeBracketed?
  split
  · exact absurd rfl (h '[' rfl)
  · rfl

theorem takeHost_of_head {s : List Char} (hs : ∀ c ∈ s.head?, c ≠ '[') :
    takeHost s =
      match s.takeWhile isHostChar with
      | [] => (none, s)
      | host => (some host, s.dropWhile isHostChar) := by
  unfold takeHost
  rw [takeBracketed?_of_head hs]
  rfl

/-- **A plain host is taken off**, and where there is none, none is. -/
theorem takeHost_renderHost {host : Option String} (hhost : ∀ h ∈ host, IsPlainHost h)
    (hrest : ∀ c ∈ rest.head?, c ∈ ['/', ':', '?']) :
    takeHost (((host.map renderHost).getD "").toList ++ rest) =
      (host.map String.toList, rest) := by
  have hend : ∀ c ∈ rest.head?, isHostChar c = false := by
    intro c hc
    have hmark := hrest c hc
    simp only [List.mem_cons, List.not_mem_nil, or_false] at hmark
    rcases hmark with rfl | rfl | rfl <;> decide
  cases host with
  | none =>
    have hopen : ∀ c ∈ rest.head?, c ≠ '[' := by
      rintro c hc rfl
      exact absurd (hrest '[' hc) (by decide)
    have hnone : ([] ++ rest).takeWhile isHostChar = [] :=
      Text.takeWhile_append_of_head (by simp) hend
    rw [List.nil_append] at hnone
    show takeHost rest = (none, rest)
    rw [takeHost_of_head hopen, hnone]
  | some host =>
    obtain ⟨hne, hchars⟩ := hhost host rfl
    have hplain : ∀ c ∈ host.toList, isHostChar c = true := by
      intro c hc
      have hmark := hchars c hc
      simp only [List.mem_cons, List.not_mem_nil, or_false, not_or] at hmark
      simp [isHostChar, hmark]
    obtain ⟨c, chars, hcons⟩ : ∃ c chars, host.toList = c :: chars :=
      List.exists_cons_of_ne_nil (by simpa using hne)
    have hopen : ∀ d ∈ (host.toList ++ rest).head?, d ≠ '[' := by
      rintro d hd rfl
      rw [hcons, List.cons_append, List.head?_cons, Option.mem_some_iff] at hd
      exact hchars c (by rw [hcons]; simp) (by simp [hd])
    rw [Option.map_some, Option.getD_some, renderHost_of_isPlainHost ⟨hne, hchars⟩,
      takeHost_of_head hopen,
      Text.takeWhile_append_of_head hplain hend, Text.dropWhile_append_of_head hplain hend,
      Option.map_some, hcons]

end Host

/-! ### Marked components -/

section Marked

variable {mark : Char} {p : Char → Bool} {s rest : List Char}

/-- A component behind its mark, if there is one. -/
def marked (mark : Char) (text : Option (List Char)) : List Char :=
  (text.map (mark :: ·)).getD []

theorem mem_marked {c : Char} {text : Option (List Char)} (h : c ∈ marked mark text) :
    c = mark ∨ ∃ s ∈ text, c ∈ s := by
  cases text with
  | none => cases h
  | some s => exact (List.mem_cons.mp h).imp_right fun hc => ⟨s, rfl, hc⟩

/-- **A marked component is taken off**, and where there is none, none is. -/
theorem takeMarked_marked {text : Option (List Char)} (htext : ∀ s ∈ text, ∀ c ∈ s, p c = true)
    (hrest : ∀ c ∈ rest.head?, p c = false ∧ c ≠ mark) :
    takeMarked mark p (marked mark text ++ rest) = (text, rest) := by
  cases text with
  | none =>
    show takeMarked mark p rest = (none, rest)
    cases rest with
    | nil => rfl
    | cons c rest => rw [takeMarked, if_neg (by simpa using (hrest c rfl).2)]
  | some s =>
    have hend : ∀ c ∈ rest.head?, p c = false := fun c hc => (hrest c hc).1
    show takeMarked mark p (mark :: (s ++ rest)) = (some s, rest)
    rw [takeMarked, if_pos BEq.rfl, Text.takeWhile_append_of_head (htext s rfl) hend,
      Text.dropWhile_append_of_head (htext s rfl) hend]

/-- The text of a port. -/
def portText (port : Int) : List Char :=
  (Numeral.render port).toList

theorem readPort_portText {port : Int} (h : port.natAbs < 10 ^ Numeral.maxDigits) :
    readPort (portText port) = .ok port := by
  have hread : Numeral.read (portText port) = .ok port :=
    Numeral.read_eq_ok_iff.mpr (Numeral.denotes_render h)
  have hne : (portText port).isEmpty = false := by
    cases hport : portText port with
    | nil =>
      rw [hport] at hread
      cases hread
    | cons c s => rfl
  rw [readPort, hne, hread]
  rfl

theorem not_mem_portText {c : Char} (hsign : c ≠ '-') (hdigit : c.isDigit = false) (port : Int) :
    c ∉ portText port := by
  intro hmem
  rcases Numeral.eq_or_isDigit_of_mem_render hmem with h | h
  · exact hsign h
  · rw [hdigit] at h
    cases h

/-- The escaped text of the name of a database. -/
def databaseText (database : String) : List Char :=
  (Text.percentEncode isDatabaseChar database).toList

theorem not_mem_databaseText {c : Char} (h : c ∈ ['?', '@']) (database : String) :
    c ∉ databaseText database := by
  simp only [List.mem_cons, List.not_mem_nil, or_false] at h
  rcases h with rfl | rfl <;>
    exact Text.not_mem_percentEncode (by decide) (by decide) (by decide) database

end Marked

/-! ### Whole addresses -/

section Address

variable {u : DatabaseUrl}

/-- What is written after a host, if there are no options. -/
def textAfterHost (u : DatabaseUrl) : List Char :=
  marked ':' (u.port.map portText) ++ marked '/' (u.database.map databaseText)

theorem toList_render (hquery : u.query = []) :
    u.render.toList =
      u.driver.toList ++ ':' :: '/' :: '/' ::
        ((renderCredentials u.user
            (u.password.map (Text.percentEncode isCredentialChar))).toList ++
          (((u.host.map renderHost).getD "").toList ++ u.textAfterHost)) := by
  unfold render renderWith textAfterHost
  rw [hquery]
  cases u.port <;> cases u.database <;>
    simp [renderQuery, portText, databaseText, marked, String.toList_append]

/-- Whatever comes after a host begins with a mark. -/
theorem mem_of_head?_textAfterHost : ∀ c ∈ u.textAfterHost.head?, c ∈ ['/', ':', '?'] := by
  unfold textAfterHost
  cases u.port <;> cases u.database <;> simp [marked]

/-- No at sign comes after the one that ends the user name and the password. -/
theorem at_not_mem (h : u.IsPlain) :
    '@' ∉ ((u.host.map renderHost).getD "").toList ++ u.textAfterHost := by
  have hhost : '@' ∉ ((u.host.map renderHost).getD "").toList := by
    cases hu : u.host with
    | none => simp
    | some host =>
      have hplain := h.host host hu
      rw [Option.map_some, Option.getD_some, renderHost_of_isPlainHost hplain]
      exact fun hmem => hplain.2 '@' hmem (by simp)
  have hport : '@' ∉ marked ':' (u.port.map portText) := by
    intro hmem
    obtain hcolon | ⟨s, hs, hc⟩ := mem_marked hmem
    · exact absurd hcolon (by decide)
    · obtain ⟨port, -, rfl⟩ := Option.map_eq_some_iff.mp hs
      exact not_mem_portText (by decide) (by decide) port hc
  have hdatabase : '@' ∉ marked '/' (u.database.map databaseText) := by
    intro hmem
    obtain hslash | ⟨s, hs, hc⟩ := mem_marked hmem
    · exact absurd hslash (by decide)
    · obtain ⟨database, -, rfl⟩ := Option.map_eq_some_iff.mp hs
      exact not_mem_databaseText (by simp) database hc
  simp [textAfterHost, hhost, hport, hdatabase]

theorem takeMarked_port :
    takeMarked ':' (fun c => c != '/' && c != '?') u.textAfterHost =
      (u.port.map portText, marked '/' (u.database.map databaseText)) := by
  refine takeMarked_marked ?_ ?_
  · intro s hs c hc
    obtain ⟨port, -, rfl⟩ := Option.map_eq_some_iff.mp hs
    have hslash : c ≠ '/' := fun h => not_mem_portText (by decide) (by decide) port (h ▸ hc)
    have hquery : c ≠ '?' := fun h => not_mem_portText (by decide) (by decide) port (h ▸ hc)
    simp [hslash, hquery]
  · cases u.database <;> simp [marked]

theorem takeMarked_database :
    takeMarked '/' (· != '?') (marked '/' (u.database.map databaseText)) =
      (u.database.map databaseText, []) := by
  have hplain : ∀ s ∈ u.database.map databaseText, ∀ c ∈ s, (c != '?') = true := by
    intro s hs c hc
    obtain ⟨database, -, rfl⟩ := Option.map_eq_some_iff.mp hs
    have hquery : c ≠ '?' := fun h => not_mem_databaseText (by simp) database (h ▸ hc)
    simp [hquery]
  have htake : takeMarked '/' (· != '?') (marked '/' (u.database.map databaseText) ++ []) =
      (u.database.map databaseText, []) := takeMarked_marked hplain (by simp)
  rwa [List.append_nil] at htake

/-- What the escaped text of a component stands for. -/
theorem decodeComponent_percentEncode {safe : Char → Bool} (h : safe '%' = false) (s : String) :
    decodeComponent (Text.percentEncode safe s).toList = s := by
  rw [decodeComponent, Text.percentDecode_percentEncode h, String.ofList_toList]

theorem parseRest_text (h : u.IsPlain) (driver : List Char) :
    parseRest driver
        ((renderCredentials u.user
            (u.password.map (Text.percentEncode isCredentialChar))).toList ++
          (((u.host.map renderHost).getD "").toList ++ u.textAfterHost)) =
      .ok { u with driver := String.ofList driver } := by
  have hdecode {safe : Char → Bool} (hsafe : safe '%' = false) (s : Option String) :
      (s.map fun s => (Text.percentEncode safe s).toList).map decodeComponent = s := by
    cases s with
    | none => rfl
    | some s => exact congrArg some (decodeComponent_percentEncode hsafe s)
  have huser : (u.user.map credentialText).map decodeComponent = u.user := hdecode rfl u.user
  have hpassword : (u.password.map credentialText).map decodeComponent = u.password :=
    hdecode rfl u.password
  have hdatabase : (u.database.map databaseText).map decodeComponent = u.database :=
    hdecode rfl u.database
  unfold parseRest
  rw [takeCredentials_renderCredentials h.password (at_not_mem h)]
  dsimp only
  rw [takeHost_renderHost h.host mem_of_head?_textAfterHost]
  dsimp only
  rw [takeMarked_port]
  dsimp only
  rw [takeMarked_database, show takeMarked '?' (· != '\n') [] = (none, []) from rfl, huser,
    hpassword, hdatabase]
  have hhost : (u.host.map String.toList).map String.ofList = u.host := by
    cases u.host with
    | none => rfl
    | some host => exact congrArg some String.ofList_toList
  rw [hhost, h.query]
  -- All that is left to read is the number of the port.
  cases hport : u.port with
  | none => rfl
  | some port =>
    rw [Option.map_some]
    dsimp only
    rw [readPort_portText (h.port port hport)]
    rfl

/-- What follows the driver is read as the rest of the address. -/
theorem parse_of_driver {s : String} {driver rest : List Char} (hne : driver ≠ [])
    (hdriver : ∀ c ∈ driver, isDriverChar c = true)
    (hs : s.toList = driver ++ ':' :: '/' :: '/' :: rest) : parse s = parseRest driver rest := by
  have hcolon : isDriverChar ':' = false := by decide +kernel
  have hend : ∀ c ∈ (':' :: '/' :: '/' :: rest).head?, isDriverChar c = false := by
    intro c hc
    obtain rfl := Option.mem_some_iff.mp hc
    exact hcolon
  have htake : s.toList.takeWhile isDriverChar = driver := by
    rw [hs, Text.takeWhile_append_of_head hdriver hend]
  have hdrop : s.toList.dropWhile isDriverChar = ':' :: '/' :: '/' :: rest := by
    rw [hs, Text.dropWhile_append_of_head hdriver hend]
  obtain ⟨c, chars, rfl⟩ := List.exists_cons_of_ne_nil hne
  unfold isDriverChar at htake hdrop
  rw [parse, htake, hdrop]
  rfl

/-- **An address without options is read back from its text**. -/
theorem parse_render (h : u.IsPlain) : parse u.render = .ok u := by
  have hne : u.driver.toList ≠ [] := by simpa using h.driver_ne
  rw [parse_of_driver hne h.driver (toList_render h.query), parseRest_text h, String.ofList_toList]

end Address

end CardHealth.Config.DatabaseUrl
