/-!
# Letters and their other case

Most letters have their other case at a fixed distance that they share with letters around them, so
a case mapping is listed as runs of letters.
-/

namespace CardHealth.Text

/-- A run of letters `first`, `first + step`, …, `last`, whose other case is `offset` away. -/
structure CaseRun where
  first : Nat
  last : Nat
  step : Nat
  offset : Int

/-- Whether a character is a letter of a run. -/
def CaseRun.has (run : CaseRun) (c : Char) : Bool :=
  run.first ≤ c.toNat && c.toNat ≤ run.last && (c.toNat - run.first) % run.step == 0

/-- A character in the other case, if one of the runs has it. -/
def otherCase? (runs : List CaseRun) (c : Char) : Option Char :=
  (runs.find? (·.has c)).map fun run => Char.ofNat ((c.toNat : Int) + run.offset).toNat

end CardHealth.Text
