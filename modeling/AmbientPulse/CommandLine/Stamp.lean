namespace AmbientPulse.CommandLine

/-- Year, month and day of a day counted from the first of January 1970. Years are taken to begin in
March, so that a leap day is the last of its year. -/
def civilDate (day : Nat) : Nat × Nat × Nat :=
  let d := day + 719468
  let era := d / 146097
  let dayOfEra := d % 146097
  let year := (dayOfEra - dayOfEra / 1460 + dayOfEra / 36524 - dayOfEra / 146096) / 365
  let dayOfYear := dayOfEra - (365 * year + year / 4 - year / 100)
  let month := (5 * dayOfYear + 2) / 153
  let dayOfMonth := dayOfYear - (153 * month + 2) / 5 + 1
  if month < 10 then (era * 400 + year, month + 3, dayOfMonth)
  else (era * 400 + year + 1, month - 9, dayOfMonth)

def zeroPadded (width n : Nat) : String :=
  let ds := toString n
  "".pushn '0' (width - ds.length) ++ ds

/-- A time in milliseconds since the first of January 1970, as logs write it. -/
def stamp (ms : Nat) : String :=
  let date := civilDate (ms / 86400000)
  let clock := ms % 86400000
  zeroPadded 4 date.1 ++ "-" ++ zeroPadded 2 date.2.1 ++ "-" ++ zeroPadded 2 date.2.2 ++ "T" ++
    zeroPadded 2 (clock / 3600000) ++ ":" ++ zeroPadded 2 (clock / 60000 % 60) ++ ":" ++
    zeroPadded 2 (clock / 1000 % 60) ++ "." ++ zeroPadded 3 (clock % 1000) ++ "Z"

example : stamp 951782400000 = "2000-02-29T00:00:00.000Z" := by decide +kernel

end AmbientPulse.CommandLine
