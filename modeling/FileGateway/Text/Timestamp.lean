/-! An instant is a number of seconds since 1970-01-01T00:00:00 in UTC. `render` writes it
in the format of RFC 3339 with the proleptic Gregorian calendar. -/
namespace FileGateway.Timestamp

structure Date where
  year : Int
  month : Nat
  day : Nat
  deriving DecidableEq, Repr

/-- The date a number of days after 1970-01-01. Years are counted from March, so
that a leap day ends its year; 146097 days make the 400-year cycle, and 719468
days separate 0000-03-01 from 1970-01-01. -/
def Date.ofDays (days : Int) : Date :=
  let shifted := days + 719468
  let era := shifted / 146097
  let dayOfEra := (shifted % 146097).toNat
  let yearOfEra := (dayOfEra - dayOfEra / 1460 + dayOfEra / 36524 - dayOfEra / 146096) / 365
  let dayOfYear := dayOfEra - (365 * yearOfEra + yearOfEra / 4 - yearOfEra / 100)
  let fromMarch := (5 * dayOfYear + 2) / 153
  let day := dayOfYear - (153 * fromMarch + 2) / 5 + 1
  let month := if fromMarch < 10 then fromMarch + 3 else fromMarch - 9
  let year := era * 400 + yearOfEra + (if month ≤ 2 then 1 else 0)
  ⟨year, month, day⟩

/-- The number in decimal, filled with zeros on the left to `width` digits. -/
def padded (width number : Nat) : String :=
  let digits := toString number
  String.ofList (List.replicate (width - digits.length) '0') ++ digits

/-- A year of at least four digits. Years outside 0 to 9999 carry their sign. -/
def yearText (year : Int) : String :=
  if 0 ≤ year ∧ year ≤ 9999 then padded 4 year.toNat
  else (if year < 0 then "-" else "+") ++ padded 4 year.natAbs

def Date.render (date : Date) : String :=
  yearText date.year ++ "-" ++ padded 2 date.month ++ "-" ++ padded 2 date.day

/-- The first second of the year -262143, the first year that is written. -/
def firstSecond : Int := -8334601228800

/-- The last second of the year 262142, the last year that is written. -/
def lastSecond : Int := 8210266876799

/-- The instant in RFC 3339, in UTC, without a fraction. -/
def render? (seconds : Int) : Option String :=
  if firstSecond ≤ seconds ∧ seconds ≤ lastSecond then
    let ofDay := (seconds % 86400).toNat
    some ((Date.ofDays (seconds / 86400)).render ++ "T" ++ padded 2 (ofDay / 3600) ++ ":"
      ++ padded 2 (ofDay / 60 % 60) ++ ":" ++ padded 2 (ofDay % 60) ++ "+00:00")
  else none

end FileGateway.Timestamp
