import Workbench.Number.Reading
import Workbench.Yaml.Fault

/-!
# Dates and times of day

A date is a year of four digits, a month and a day; a time of day with fractions of a second and a
time zone may follow. No setting takes one, but a date that does not exist is a fault.
-/
namespace Workbench.Yaml

/-- The parts of a time of day. -/
structure TimeOfDay where
  hour : Nat
  minute : Nat
  second : Nat
  /-- Minutes from universal time. -/
  zone : Option Int
  deriving DecidableEq, Repr

/-- A date, perhaps with a time of day, as it is written. -/
structure Moment where
  year : Nat
  month : Nat
  day : Nat
  /-- Are month and day written with two digits each? -/
  wide : Bool
  time : Option TimeOfDay
  deriving DecidableEq, Repr

namespace Moment

/-- A number of one or two digits, its width, and what follows it. -/
def short? (cs : List Char) : Option (Nat × Nat × List Char) :=
  let ds := (cs.take 2).takeWhile Char.isDigit
  if ds.isEmpty then none else some (Number.natOf ds, ds.length, cs.drop ds.length)

/-- A number of exactly `width` digits, and what follows it. -/
def fixed? (width : Nat) (cs : List Char) : Option (Nat × List Char) :=
  let ds := cs.take width
  if ds.length = width && ds.all Char.isDigit then some (Number.natOf ds, cs.drop width) else none

/-- What follows a character. -/
def after? (c : Char) (cs : List Char) : Option (List Char) :=
  match cs with
  | d :: rest => if d = c then some rest else none
  | [] => none

def isGap (c : Char) : Bool := c == ' ' || c == '\t'

/-- The time zone that a text is, white space in front of it; an empty text is none. -/
def zone? (cs : List Char) : Option (Option Int) :=
  match cs.dropWhile isGap with
  | [] => if cs.isEmpty then some none else none
  | ['Z'] => some (some 0)
  | sign :: rest => do
    if sign ≠ '+' && sign ≠ '-' then none
    else
      let (hours, _, rest) ← short? rest
      let minutes ← match rest with
        | [] => some 0
        | _ => match ← (after? ':' rest).bind (fixed? 2) with
          | (minutes, []) => some minutes
          | _ => none
      let total : Int := hours * 60 + minutes
      some (some (if sign = '-' then -total else total))

/-- The time of day that a text is. -/
def time? (cs : List Char) : Option TimeOfDay := do
  let (hour, _, rest) ← short? cs
  let (minute, rest) ← (after? ':' rest).bind (fixed? 2)
  let (second, rest) ← (after? ':' rest).bind (fixed? 2)
  let rest := match rest with
    | '.' :: more => more.dropWhile Char.isDigit
    | _ => rest
  let zone ← zone? rest
  some { hour, minute, second, zone }

/-- The date that a text is, a time of day perhaps behind it. -/
def ofText? (cs : List Char) : Option Moment := do
  let (year, rest) ← fixed? 4 cs
  let (month, monthWidth, rest) ← (after? '-' rest).bind short?
  let (day, dayWidth, rest) ← (after? '-' rest).bind short?
  let time ← match rest with
    | [] => some none
    | c :: more =>
      if c == 'T' || c == 't' then (time? more).map some
      else if isGap c then (time? (more.dropWhile isGap)).map some
      else none
  some { year, month, day, wide := monthWidth = 2 && dayWidth = 2, time }

/-- Is a text without a mark for its type read as this date? Short months and days need a time of
day. -/
def isPlain (m : Moment) : Bool := m.wide || m.time.isSome

def isLeap (year : Nat) : Bool := year % 4 == 0 && (year % 100 != 0 || year % 400 == 0)

def daysIn (year month : Nat) : Nat :=
  if month = 2 then (if isLeap year then 29 else 28)
  else if month = 4 || month = 6 || month = 9 || month = 11 then 30
  else 31

/-- What is wrong with a time of day. -/
def timeFault? (t : TimeOfDay) : Option MomentFault :=
  if 23 < t.hour then some .hour
  else if 59 < t.minute then some .minute
  else if 59 < t.second then some .second
  else none

/-- What is wrong with a moment. A time zone is looked at first. -/
def fault? (m : Moment) : Option MomentFault :=
  match m.time.bind (·.zone) with
  | some z => if 1440 ≤ z.natAbs then some (.zone z) else date
  | none => date
where
  /-- What is wrong with the date or else with the time of day. -/
  date : Option MomentFault :=
    if m.year = 0 then some .year
    else if m.month = 0 || 12 < m.month then some .month
    else if m.day = 0 || daysIn m.year m.month < m.day then some .day
    else m.time.bind timeFault?

end Moment

end Workbench.Yaml
