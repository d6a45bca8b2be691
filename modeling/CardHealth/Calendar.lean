import CardHealth.Numeral

/-!
# Dates and times

The civil date and time, in UTC, of a time counted in milliseconds since the beginning of 1970.
-/

namespace CardHealth

/-- A date and a time of day. -/
structure DateTime where
  year : Int
  month : Nat
  day : Nat
  hour : Nat
  minute : Nat
  second : Nat
  millisecond : Nat
  deriving DecidableEq, Repr

namespace DateTime

/-- The year, month and day of a day counted from the beginning of 1970.  Years are taken to begin
in March, so that a leap day is the last of its year, and to repeat after 400 of them. -/
def civil (days : Int) : Int × Nat × Nat :=
  let shifted := days + 719468
  let era := shifted.fdiv 146097
  let dayOfEra := (shifted.fmod 146097).toNat
  let yearOfEra := (dayOfEra - dayOfEra / 1460 + dayOfEra / 36524 - dayOfEra / 146096) / 365
  let dayOfYear := dayOfEra - (365 * yearOfEra + yearOfEra / 4 - yearOfEra / 100)
  let shiftedMonth := (5 * dayOfYear + 2) / 153
  let day := dayOfYear - (153 * shiftedMonth + 2) / 5 + 1
  let month := if shiftedMonth < 10 then shiftedMonth + 3 else shiftedMonth - 9
  let year := yearOfEra + era * 400
  (if month ≤ 2 then year + 1 else year, month, day)

/-- The date and time of a time in milliseconds. -/
def ofMilliseconds (time : Int) : DateTime :=
  let day := 24 * 60 * 60 * 1000
  let (year, month, dayOfMonth) := civil (time.fdiv day)
  let rest := (time.fmod day).toNat
  { year, month, day := dayOfMonth
    hour := rest / 3600000
    minute := rest / 60000 % 60
    second := rest / 1000 % 60
    millisecond := rest % 1000 }

/-- A date and time as log lines show it. -/
def render (t : DateTime) : String :=
  let two (n : Nat) : String := String.ofList (Numeral.padded 2 n)
  let three (n : Nat) : String := String.ofList (Numeral.padded 3 n)
  s!"{Numeral.render t.year}-{two t.month}-{two t.day} " ++
    s!"{two t.hour}:{two t.minute}:{two t.second},{three t.millisecond}"

end DateTime

end CardHealth
