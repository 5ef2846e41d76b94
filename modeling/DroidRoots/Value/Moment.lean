/-! Dates, with or without a time of day, as documents give them. -/

namespace DroidRoots

/-- The offset from universal time is in minutes; a time may have none. -/
structure Clock where
  hour : Nat
  minute : Nat
  second : Nat
  micro : Nat
  offset : Option Int
  deriving DecidableEq, Repr

structure Moment where
  year : Nat
  month : Nat
  day : Nat
  clock : Option Clock
  deriving DecidableEq, Repr

namespace Moment

def padded (width n : Nat) : String :=
  let digits := toString n
  String.ofList (List.replicate (width - digits.length) '0') ++ digits

def isLeap (year : Nat) : Bool := year % 4 = 0 ∧ (year % 100 ≠ 0 ∨ year % 400 = 0)

def daysIn (year month : Nat) : Nat :=
  if month = 2 then (if isLeap year then 29 else 28)
  else if month ∈ [4, 6, 9, 11] then 30
  else 31

/-- A span of minutes; a negative one is a day less and the seconds that are left of it. -/
def duration (minutes : Int) : String :=
  let days := Int.fdiv minutes 1440
  let seconds := Int.fmod minutes 1440 * 60
  let parts := (if days = 0 then [] else ["days=" ++ toString days]) ++
    (if seconds = 0 then [] else ["seconds=" ++ toString seconds])
  "datetime.timedelta(" ++ (if parts.isEmpty then "0" else String.intercalate ", " parts) ++ ")"

def excess? (m : Moment) : Option String := do
  let offset ← (← m.clock).offset
  if offset.natAbs < 1440 then none
  else
    some ("offset must be a timedelta strictly between -timedelta(hours=24) and " ++
      "timedelta(hours=24), not " ++ duration offset ++ ".")

def objection? (m : Moment) : Option String :=
  if let some reason := m.excess? then some reason
  else if m.year = 0 then some "year 0 is out of range"
  else if m.month = 0 ∨ 12 < m.month then some "month must be in 1..12"
  else if m.day = 0 ∨ daysIn m.year m.month < m.day then some "day is out of range for month"
  else match m.clock with
    | none => none
    | some clock =>
      if 23 < clock.hour then some "hour must be in 0..23"
      else if 59 < clock.minute then some "minute must be in 0..59"
      else if 59 < clock.second then some "second must be in 0..59"
      else none

def offsetText (minutes : Int) : String :=
  let size := minutes.natAbs
  (if minutes < 0 then "-" else "+") ++ padded 2 (size / 60) ++ ":" ++ padded 2 (size % 60)

def clockText (c : Clock) : String :=
  padded 2 c.hour ++ ":" ++ padded 2 c.minute ++ ":" ++ padded 2 c.second ++
    (if c.micro = 0 then "" else "." ++ padded 6 c.micro) ++ (c.offset.map offsetText).getD ""

def text (m : Moment) : String :=
  padded 4 m.year ++ "-" ++ padded 2 m.month ++ "-" ++ padded 2 m.day ++
    (m.clock.map fun c => " " ++ clockText c).getD ""

def offsetParts (minutes : Int) : String :=
  if minutes = 0 then "datetime.timezone.utc"
  else "datetime.timezone(" ++ duration minutes ++ ")"

def constructed (m : Moment) : String :=
  let day := [m.year, m.month, m.day].map (fun n => toString n)
  match m.clock with
  | none => "datetime.date(" ++ String.intercalate ", " day ++ ")"
  | some c =>
    let small := if c.micro ≠ 0 then [toString c.second, toString c.micro]
      else if c.second ≠ 0 then [toString c.second] else []
    let zone := (c.offset.map fun o => ["tzinfo=" ++ offsetParts o]).getD []
    "datetime.datetime(" ++
      String.intercalate ", " (day ++ [toString c.hour, toString c.minute] ++ small ++ zone) ++ ")"

def dayNumber (m : Moment) : Nat :=
  let past := m.year - 1
  let months := (List.range (m.month - 1)).foldl (fun n month => n + daysIn m.year (month + 1)) 0
  past * 365 + past / 4 - past / 100 + past / 400 + months + m.day

def minutes? (m : Moment) : Option Int := do
  let clock ← m.clock
  let offset ← clock.offset
  let wall : Int := (m.dayNumber * 24 + clock.hour) * 60 + clock.minute
  some (wall - offset)

/-- Moments with an offset are the same if they are so in universal time; others have to
be written with the same parts. -/
def same (a b : Moment) : Bool :=
  match a.minutes?, b.minutes? with
  | some i, some j =>
    i = j && a.clock.map (fun c => (c.second, c.micro)) = b.clock.map (fun c => (c.second, c.micro))
  | none, none => a = b
  | _, _ => false

end Moment

end DroidRoots
