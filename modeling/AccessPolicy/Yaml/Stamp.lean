import AccessPolicy.Time.Calendar
import AccessPolicy.Number.Written

/-! Points in time as documents write them: a day, and after it, if given, the time of
day with an offset from universal time. -/

namespace AccessPolicy.Yaml

inductive StampZone where
  | universal
  | ahead (hours minutes : Nat)
  | behind (hours minutes : Nat)
  deriving DecidableEq, Repr

structure StampTime where
  hour : Nat
  minute : Nat
  second : Nat
  /-- The digits after the point. -/
  fraction : List Char
  zone : Option StampZone
  deriving Repr

structure Stamp where
  year : Nat
  month : Nat
  day : Nat
  time : Option StampTime
  /-- Month and day are written with two digits each. -/
  isPadded : Bool
  deriving Repr

private def leadingDigits (limit : Nat) (text : List Char) : List Char × List Char :=
  let digits := (text.take limit).takeWhile Char.isDigit
  (digits, text.drop digits.length)

private def readDigits (least most : Nat) (text : List Char) : Option (List Char × List Char) :=
  let (digits, rest) := leadingDigits most text
  if digits.length < least then none else some (digits, rest)

private def isGap (c : Char) : Bool := c == ' ' || c == '\t'

private def value (digits : List Char) : Nat := Number.ofDigits 10 digits

private def readOffset (text : List Char) : Option (Nat × Nat × List Char) := do
  let (hours, rest) ← readDigits 1 2 text
  match rest with
  | ':' :: rest =>
    let (minutes, rest) ← readDigits 2 2 rest
    return (value hours, value minutes, rest)
  | _ => return (value hours, 0, rest)

private def readZone (text : List Char) : Option (Option StampZone) :=
  match text with
  | [] => some none
  | _ =>
    match text.dropWhile isGap with
    | ['Z'] => some (some .universal)
    | '+' :: rest =>
      match readOffset rest with
      | some (hours, minutes, []) => some (some (.ahead hours minutes))
      | _ => none
    | '-' :: rest =>
      match readOffset rest with
      | some (hours, minutes, []) => some (some (.behind hours minutes))
      | _ => none
    | _ => none

private def readTime (text : List Char) : Option StampTime := do
  let (hour, rest) ← readDigits 1 2 text
  let .cons ':' rest := rest | none
  let (minute, rest) ← readDigits 2 2 rest
  let .cons ':' rest := rest | none
  let (second, rest) ← readDigits 2 2 rest
  let (fraction, rest) := match rest with
    | '.' :: rest => (rest.takeWhile Char.isDigit, rest.dropWhile Char.isDigit)
    | _ => ([], rest)
  let zone ← readZone rest
  return ⟨value hour, value minute, value second, fraction, zone⟩

def Stamp.read (text : List Char) : Option Stamp := do
  let (year, rest) ← readDigits 4 4 text
  let .cons '-' rest := rest | none
  let (month, rest) ← readDigits 1 2 rest
  let .cons '-' rest := rest | none
  let (day, rest) ← readDigits 1 2 rest
  let isPadded := month.length == 2 && day.length == 2
  match rest with
  | [] => return ⟨value year, value month, value day, none, isPadded⟩
  | c :: rest =>
    if c == 'T' || c == 't' then
      return ⟨value year, value month, value day, some (← readTime rest), isPadded⟩
    else if isGap c then
      let time ← readTime (rest.dropWhile isGap)
      return ⟨value year, value month, value day, some time, isPadded⟩
    else none

/-- Six digits of the fraction count. -/
def StampTime.microsecond (time : StampTime) : Nat :=
  let digits := time.fraction.take 6
  value (digits ++ List.replicate (6 - digits.length) '0')

def StampZone.offset : StampZone → Except Time.Fault Time.Offset
  | .universal => Time.Offset.of 0
  | .ahead hours minutes => Time.Offset.of (hours * 3600 + minutes * 60)
  | .behind hours minutes => Time.Offset.of (-(hours * 3600 + minutes * 60))

def Stamp.date (stamp : Stamp) : Except Time.Fault Time.Date :=
  Time.Date.of stamp.year stamp.month stamp.day

/-- The offset is examined before the fields of the day. -/
def Stamp.moment (stamp : Stamp) (time : StampTime) : Except Time.Fault Time.Moment := do
  let offset ← time.zone.mapM StampZone.offset
  Time.Moment.of stamp.date time.hour time.minute time.second time.microsecond offset

end AccessPolicy.Yaml
