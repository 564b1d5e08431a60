import IdentityClaims.Toml.Reading

/-!
# Dates and times

A date, a time of day, or both, then perhaps with the offset from universal time. They are read
in several spellings and written in one: a fraction has no more digits than it needs, and the
letters between the parts are capitals. Parts that are left out stay out.
-/

namespace IdentityClaims.Toml

structure Date where
  year : Nat
  month : Nat
  day : Nat
  deriving DecidableEq, Repr

/-- A second of a minute, and perhaps a part of it; the sixtieth is a leap second. -/
structure Second where
  second : Nat
  nanosecond? : Option Nat
  deriving DecidableEq, Repr

structure Time where
  hour : Nat
  minute : Nat
  second? : Option Second
  deriving DecidableEq, Repr

inductive Offset where
  | universal
  /-- Minutes ahead of universal time. -/
  | ahead (minutes : Int)
  deriving DecidableEq, Repr

inductive Moment where
  | date (day : Date)
  | time (time : Time)
  | dateTime (day : Date) (time : Time) (offset? : Option Offset)
  deriving DecidableEq, Repr

/-! ## Reading -/

def isLeapYear (year : Nat) : Bool :=
  year % 4 == 0 && (year % 100 != 0 || year % 400 == 0)

def daysOfMonth (year month : Nat) : Nat :=
  if month = 2 then if isLeapYear year then 29 else 28
  else if month ∈ [4, 6, 9, 11] then 30 else 31

namespace Reading

def date : Reading Date := do
  let year ← digits 4 0 9999
  expect "-"
  let month ← digits 2 1 12
  expect "-"
  return ⟨year, month, ← digits 2 1 (daysOfMonth year month)⟩

/-- The nanoseconds of a fraction, if one is written. Further digits do not count. -/
def nanosecond? : Reading (Option Nat) := do
  if ← takes "." then
    let run ← takeWhile Char.isDigit
    if run = [] then failure
    return some (Number.ofDecimal ((run ++ List.replicate 9 '0').take 9))
  else return none

/-- The seconds of a time, if they are written. -/
def second? : Reading (Option Second) := do
  if ← takes ":" then
    let second ← digits 2 0 60
    return some ⟨second, ← nanosecond?⟩
  else return none

def time : Reading Time := do
  let hour ← digits 2 0 23
  expect ":"
  let minute ← digits 2 0 59
  return ⟨hour, minute, ← second?⟩

def offsetMinutes : Reading Nat := do
  let hours ← digits 2 0 23
  expect ":"
  return hours * 60 + (← digits 2 0 59)

def offset? : Reading (Option Offset) := do
  if ← takesAny ["Z", "z"] then return some .universal
  else if ← takes "+" then return some (.ahead (← offsetMinutes))
  else if ← takes "-" then return some (.ahead (-(← offsetMinutes)))
  else return none

/-- A date, a time, or both; a letter or a space stands between them. -/
def moment : Reading Moment := do
  if (← get)[2]? = some ':' then return .time (← time)
  let day ← date
  if ← takesAny ["T", "t", " "] then return .dateTime day (← time) (← offset?)
  return .date day

end Reading

/-! ## Writing -/

/-- A number with zeros in front up to a width. -/
def padded (width n : Nat) : String :=
  let digits := Number.digits n
  String.ofList (List.replicate (width - digits.length) '0' ++ digits)

def Date.text (date : Date) : String :=
  padded 4 date.year ++ "-" ++ padded 2 date.month ++ "-" ++ padded 2 date.day

/-- A fraction of nine digits without the zeros at its end, but with one digit at least. -/
def fractionText (nanosecond : Nat) : String :=
  let digits := (padded 9 nanosecond).toList
  String.ofList (digits.take 1 ++ ((digits.drop 1).reverse.dropWhile (· == '0')).reverse)

def Second.text (second : Second) : String :=
  padded 2 second.second ++
    (second.nanosecond?.map fun nanosecond => "." ++ fractionText nanosecond).getD ""

def Time.text (time : Time) : String :=
  padded 2 time.hour ++ ":" ++ padded 2 time.minute ++
    (time.second?.map fun second => ":" ++ second.text).getD ""

def Offset.text : Offset → String
  | .universal => "Z"
  | .ahead minutes =>
    (if minutes < 0 then "-" else "+") ++ padded 2 (minutes.natAbs / 60) ++ ":" ++
      padded 2 (minutes.natAbs % 60)

def Moment.text : Moment → String
  | .date day => day.text
  | .time hour => hour.text
  | .dateTime day hour offset? =>
    day.text ++ "T" ++ hour.text ++ (offset?.map Offset.text).getD ""

end IdentityClaims.Toml
