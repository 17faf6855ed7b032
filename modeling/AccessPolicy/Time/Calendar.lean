import AccessPolicy.Text.Surrogate

/-! Dates of the Gregorian calendar, moments with or without an offset from universal
time, and their ISO texts. A date or moment exists only if all its fields are in range. -/

namespace AccessPolicy.Time

def isLeap (year : Nat) : Bool := year % 4 == 0 && (year % 100 != 0 || year % 400 == 0)

def daysInMonth (year month : Nat) : Nat :=
  if month = 2 then if isLeap year then 29 else 28
  else if month = 4 ∨ month = 6 ∨ month = 9 ∨ month = 11 then 30
  else 31

structure Date where
  year : Nat
  month : Nat
  day : Nat
  year_mem : 1 ≤ year ∧ year ≤ 9999 := by decide
  month_mem : 1 ≤ month ∧ month ≤ 12 := by decide
  day_mem : 1 ≤ day ∧ day ≤ daysInMonth year month := by decide
  deriving DecidableEq, Repr

/-- Seconds of an offset lie strictly within a day on either side. -/
structure Offset where
  seconds : Int
  within : -86400 < seconds ∧ seconds < 86400 := by decide
  deriving DecidableEq, Repr

structure Moment where
  date : Date
  hour : Nat
  minute : Nat
  second : Nat
  microsecond : Nat
  offset : Option Offset
  clock : hour < 24 ∧ minute < 60 ∧ second < 60 ∧ microsecond < 1000000 := by decide
  deriving DecidableEq, Repr

inductive Fault where
  | year (value : Nat)
  | month
  | day
  | hour
  | minute
  | second
  | offset (seconds : Int)
  deriving DecidableEq, Repr

def spanText (seconds : Int) : String :=
  let days := seconds.fdiv 86400
  let rest := seconds.fmod 86400
  let fields := (if days = 0 then [] else ["days=" ++ toString days]) ++
    (if rest = 0 then [] else ["seconds=" ++ toString rest])
  "datetime.timedelta(" ++ (if fields.isEmpty then "0" else ", ".intercalate fields) ++ ")"

def Fault.message : Fault → String
  | .year value => "year " ++ toString value ++ " is out of range"
  | .month => "month must be in 1..12"
  | .day => "day is out of range for month"
  | .hour => "hour must be in 0..23"
  | .minute => "minute must be in 0..59"
  | .second => "second must be in 0..59"
  | .offset seconds =>
    "offset must be a timedelta strictly between -timedelta(hours=24) and " ++
      "timedelta(hours=24), not " ++ spanText seconds ++ "."

def Date.of (year month day : Nat) : Except Fault Date :=
  if hy : 1 ≤ year ∧ year ≤ 9999 then
    if hm : 1 ≤ month ∧ month ≤ 12 then
      if hd : 1 ≤ day ∧ day ≤ daysInMonth year month then .ok ⟨year, month, day, hy, hm, hd⟩
      else .error .day
    else .error .month
  else .error (.year year)

def Offset.of (seconds : Int) : Except Fault Offset :=
  if h : -86400 < seconds ∧ seconds < 86400 then .ok ⟨seconds, h⟩ else .error (.offset seconds)

/-- Fields are examined from the year down. Microseconds beyond a second are dropped. -/
def Moment.of (date : Except Fault Date) (hour minute second microsecond : Nat)
    (offset : Option Offset) : Except Fault Moment := do
  let date ← date
  if hh : hour < 24 then
    if hm : minute < 60 then
      if hs : second < 60 then
        .ok ⟨date, hour, minute, second, microsecond % 1000000, offset,
          hh, hm, hs, Nat.mod_lt _ (by decide)⟩
      else .error .second
    else .error .minute
  else .error .hour

def Date.first : Date := { year := 1, month := 1, day := 1 }

def Date.last : Date := { year := 9999, month := 12, day := 31 }

def Moment.first : Moment :=
  { date := .first, hour := 0, minute := 0, second := 0, microsecond := 0, offset := none }

def Moment.last : Moment :=
  { date := .last, hour := 23, minute := 59, second := 59, microsecond := 999999, offset := none }

/-- Days of the calendar before the date, from the first day of year 1. -/
def Date.ordinal (d : Date) : Nat :=
  let before := d.year - 1
  let months := (List.range (d.month - 1)).foldl (fun n m => n + daysInMonth d.year (m + 1)) 0
  before * 365 + before / 4 - before / 100 + before / 400 + months + (d.day - 1)

/-- Microseconds from the start of the calendar on the moment's own clock. -/
def Moment.local (m : Moment) : Int :=
  ((m.date.ordinal * 86400 + m.hour * 3600 + m.minute * 60 + m.second) * 1000000 +
    m.microsecond : Nat)

/-- What decides whether two moments are one: the instant in universal time if there is
an offset, otherwise the reading of the clock; the two kinds never agree. -/
def Moment.instant (m : Moment) : Bool × Int :=
  match m.offset with
  | none => (false, m.local)
  | some offset => (true, m.local - offset.seconds * 1000000)

private def padded (width n : Nat) : String :=
  let digits := Nat.toDigits 10 n
  String.ofList (List.replicate (width - digits.length) '0' ++ digits)

def Date.iso (d : Date) : String :=
  padded 4 d.year ++ "-" ++ padded 2 d.month ++ "-" ++ padded 2 d.day

def Offset.iso (offset : Offset) : String :=
  let n := offset.seconds.natAbs
  (if offset.seconds < 0 then "-" else "+") ++ padded 2 (n / 3600) ++ ":" ++
    padded 2 (n / 60 % 60) ++ (if n % 60 = 0 then "" else ":" ++ padded 2 (n % 60))

def Moment.iso (separator : String) (m : Moment) : String :=
  m.date.iso ++ separator ++ padded 2 m.hour ++ ":" ++ padded 2 m.minute ++ ":" ++
    padded 2 m.second ++
    (if m.microsecond = 0 then "" else "." ++ padded 6 m.microsecond) ++
    (m.offset.map Offset.iso).getD ""

/-- The offset as messages between programs give it: whole minutes. -/
def Offset.short (offset : Offset) : String :=
  let minutes := offset.seconds.natAbs / 60
  if offset.seconds = 0 then "Z"
  else (if offset.seconds < 0 then "-" else "+") ++ padded 2 (minutes / 60) ++ ":" ++
    padded 2 (minutes % 60)

def Moment.short (m : Moment) : String :=
  { m with offset := none : Moment }.iso "T" ++ (m.offset.map Offset.short).getD ""

private theorem isAscii_padded (width n : Nat) : Text.isAscii (padded width n) := by
  refine Text.isAscii_iff.mpr fun c held => ?_
  simp only [padded, String.toList_ofList, List.mem_append, List.mem_replicate] at held
  rcases held with ⟨-, rfl⟩ | held
  · decide
  · have digit := Nat.isDigit_of_mem_toDigits (by decide) (by decide) held
    simp only [Char.isDigit, Bool.and_eq_true, decide_eq_true_eq] at digit
    exact Nat.lt_of_le_of_lt digit.2 (by decide)

/-- Dates are written in ASCII. -/
theorem Date.isAscii_iso (d : Date) : Text.isAscii d.iso := by
  simp only [Date.iso, Text.isAscii_append, isAscii_padded]
  rfl

theorem Offset.isAscii_short (offset : Offset) : Text.isAscii offset.short := by
  unfold Offset.short
  dsimp only
  split
  · decide
  · simp only [Text.isAscii_append, isAscii_padded, Bool.and_true]
    split <;> decide

/-- Moments are written in ASCII, too, with an offset or without. -/
theorem Moment.isAscii_short (m : Moment) : Text.isAscii m.short := by
  have fraction : Text.isAscii
      (if m.microsecond = 0 then "" else "." ++ padded 6 m.microsecond) := by
    split
    · rfl
    · rw [Text.isAscii_append, isAscii_padded]
      rfl
  have offset : Text.isAscii ((m.offset.map Offset.short).getD "") := by
    cases m.offset with
    | none => rfl
    | some offset => exact offset.isAscii_short
  simp only [Moment.short, Moment.iso, Text.isAscii_append, isAscii_padded, m.date.isAscii_iso,
    fraction, offset]
  rfl

private def arguments (fields : List Nat) : String := ", ".intercalate (fields.map toString)

def Date.expression (d : Date) : String :=
  "datetime.date(" ++ arguments [d.year, d.month, d.day] ++ ")"

def Offset.expression (offset : Offset) : String :=
  if offset.seconds = 0 then "datetime.timezone.utc"
  else "datetime.timezone(" ++ spanText offset.seconds ++ ")"

/-- The expression that builds the moment; seconds are left out with what is finer if
both are zero. -/
def Moment.expression (m : Moment) : String :=
  let fine := if m.microsecond ≠ 0 then [m.second, m.microsecond]
    else if m.second ≠ 0 then [m.second] else []
  "datetime.datetime(" ++
    arguments ([m.date.year, m.date.month, m.date.day, m.hour, m.minute] ++ fine) ++
    ((m.offset.map fun offset => ", tzinfo=" ++ offset.expression).getD "") ++ ")"

end AccessPolicy.Time
