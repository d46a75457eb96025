namespace NamedParams.Instant

/-- A calendar day. -/
structure Day where
  year : Nat
  month : Nat
  day : Nat
deriving DecidableEq, Repr, Inhabited

/-- The day that comes some days after the first of 1970. Years are taken to start in March, so
    that a leap day ends its year, and in cycles of 400 years from the year 0. -/
def Day.ofDays (days : Nat) : Day :=
  let count := days + 719468
  let cycle := count / 146097
  let inCycle := count % 146097
  let yearInCycle := (inCycle - inCycle / 1460 + inCycle / 36524 - inCycle / 146096) / 365
  let inYear := inCycle - (365 * yearInCycle + yearInCycle / 4 - yearInCycle / 100)
  let monthFromMarch := (5 * inYear + 2) / 153
  let month := if monthFromMarch < 10 then monthFromMarch + 3 else monthFromMarch - 9
  { year := 400 * cycle + yearInCycle + if month ≤ 2 then 1 else 0
    month
    day := inYear - (153 * monthFromMarch + 2) / 5 + 1 }

/-- A number with zeros in front. -/
def padded (width n : Nat) : String :=
  let digits := toString n
  String.ofList (List.replicate (width - digits.length) '0') ++ digits

/-- A point in time, given in milliseconds since the start of 1970, in universal time. -/
def text (milliseconds : Nat) : String :=
  let seconds := milliseconds / 1000
  let day := Day.ofDays (seconds / 86400)
  padded 4 day.year ++ "-" ++ padded 2 day.month ++ "-" ++ padded 2 day.day ++ "T" ++
    padded 2 (seconds / 3600 % 24) ++ ":" ++ padded 2 (seconds / 60 % 60) ++ ":" ++
    padded 2 (seconds % 60) ++ "." ++ padded 3 (milliseconds % 1000) ++ "Z"

end NamedParams.Instant
