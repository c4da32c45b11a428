import DeviceGateway.Decimal.Digits
import DeviceGateway.Text.Blank
/-!
Points of UTC time by calendar and clock, and their RFC 3339 text. Reading allows any offset short
of a day, blanks around the parts, and a leap second; writing always says `Z`.
-/
namespace DeviceGateway

/-- A point of UTC time; the sixtieth second of a minute is a leap second. -/
structure Timestamp where
  year : Int
  month : Nat
  day : Nat
  hour : Nat
  minute : Nat
  second : Nat
  nano : Nat
deriving DecidableEq, Repr

namespace Timestamp

def isLeap (year : Int) : Bool :=
  year % 4 = 0 && (year % 100 ≠ 0 || year % 400 = 0)

def daysIn (year : Int) (month : Nat) : Nat :=
  if month = 2 then if isLeap year then 29 else 28
  else if month = 4 ∨ month = 6 ∨ month = 9 ∨ month = 11 then 30
  else 31

/-- The years that a calendar date may lie in. -/
def firstYear : Int := -262143

def lastYear : Int := 262142

/-- A date and time of day that exist. -/
def Valid (t : Timestamp) : Prop :=
  (firstYear ≤ t.year ∧ t.year ≤ lastYear) ∧ (1 ≤ t.month ∧ t.month ≤ 12) ∧
    (1 ≤ t.day ∧ t.day ≤ daysIn t.year t.month) ∧ t.hour < 24 ∧ t.minute < 60 ∧ t.second ≤ 60 ∧
    t.nano < 1000000000

instance (t : Timestamp) : Decidable t.Valid := by unfold Valid; infer_instance

def nextDay (t : Timestamp) : Timestamp :=
  if t.day < daysIn t.year t.month then { t with day := t.day + 1 }
  else if t.month < 12 then { t with month := t.month + 1, day := 1 }
  else { t with year := t.year + 1, month := 1, day := 1 }

def previousDay (t : Timestamp) : Timestamp :=
  if 1 < t.day then { t with day := t.day - 1 }
  else if 1 < t.month then { t with month := t.month - 1, day := daysIn t.year (t.month - 1) }
  else { t with year := t.year - 1, month := 12, day := 31 }

/-- Moves by a number of minutes that is less than a day either way. -/
def addMinutes (t : Timestamp) (minutes : Int) : Timestamp :=
  let total : Int := (t.hour * 60 + t.minute : Nat) + minutes
  let ofDay := (total % 1440).toNat
  let moved := { t with hour := ofDay / 60, minute := ofDay % 60 }
  if total < 0 then moved.previousDay else if 1440 ≤ total then moved.nextDay else moved

/-- How many fraction digits are written. -/
inductive Precision where
  | fewest
  | nanos
deriving DecidableEq, Repr

/-- No fraction, or a point and 3, 6 or 9 digits. -/
def writeFraction (precision : Precision) (nano : Nat) : List Char :=
  match precision with
  | .nanos => '.' :: Decimal.writePadded 9 nano
  | .fewest =>
    if nano = 0 then []
    else if nano % 1000000 = 0 then '.' :: Decimal.writePadded 3 (nano / 1000000)
    else if nano % 1000 = 0 then '.' :: Decimal.writePadded 6 (nano / 1000)
    else '.' :: Decimal.writePadded 9 nano

/-- Years outside 0000 to 9999 carry a sign. -/
def writeYear (year : Int) : List Char :=
  if 0 ≤ year ∧ year ≤ 9999 then Decimal.writePadded 4 year.toNat
  else (if year < 0 then '-' else '+') :: Decimal.writePadded 4 year.natAbs

def write (precision : Precision) (t : Timestamp) : List Char :=
  writeYear t.year ++ '-' :: Decimal.writePadded 2 t.month ++ '-' :: Decimal.writePadded 2 t.day ++
    'T' :: Decimal.writePadded 2 t.hour ++ ':' :: Decimal.writePadded 2 t.minute ++
    ':' :: Decimal.writePadded 2 t.second ++ writeFraction precision t.nano ++ ['Z']

/-- The value of the first digits, at most `most` of them but at least one, and the rest. -/
def leading? (most : Nat) (text : List Char) : Option (Nat × List Char) :=
  let ds := ((text.take most).takeWhile fun c => (Decimal.digit? c).isSome)
  (Decimal.read? ds).map fun n => (n, text.drop ds.length)

/-- A part of the date or time: blanks, then one or two digits. -/
def part? (text : List Char) : Option (Nat × List Char) := leading? 2 (Text.trimStart text)

def separator? (c : Char) (text : List Char) : Option (List Char) :=
  match Text.trimStart text with
  | d :: rest => if d = c then some rest else none
  | [] => none

/-- A year of one to four digits, or with a sign and any number of digits. -/
def year? (text : List Char) : Option (Int × List Char) :=
  match Text.trimStart text with
  | '-' :: rest => (leading? rest.length rest).map fun (n, left) => (-(n : Int), left)
  | '+' :: rest => (leading? rest.length rest).map fun (n, left) => ((n : Int), left)
  | text => (leading? 4 text).map fun (n, left) => ((n : Int), left)

/-- Nanoseconds after a point; digits beyond the ninth are passed over. -/
def fraction? : List Char → Option (Nat × List Char)
  | '.' :: rest =>
    let ds := (rest.take 9).takeWhile fun c => (Decimal.digit? c).isSome
    (Decimal.read? ds).map fun n =>
      (n * Nat.pow 10 (9 - ds.length), rest.dropWhile fun c => (Decimal.digit? c).isSome)
  | text => some (0, text)

/-- Two digits exactly, the first one below `bound`. -/
def pair? (bound : Nat) : List Char → Option (Nat × List Char)
  | a :: b :: rest => do
    let a ← Decimal.digit? a
    let b ← Decimal.digit? b
    if a < bound then return (a * 10 + b, rest) else none
  | _ => none

/-- Minutes east of Greenwich. -/
def offset? (text : List Char) : Option (Int × List Char) :=
  match text with
  | 'Z' :: rest | 'z' :: rest => some (0, rest)
  | sign :: rest =>
    if sign = '+' ∨ sign = '-' ∨ sign = '−' then do
      let (hours, rest) ← pair? 10 rest
      let (minutes, rest) ← pair? 6 (rest.dropWhile fun c => c = ':' || Text.isBlankChar c)
      let total : Int := (hours * 60 + minutes : Nat)
      return (if sign = '+' then total else -total, rest)
    else none
  | [] => none

/-- The zone's name for UTC, in any case, or an offset. -/
def zone? (text : List Char) : Option (Int × List Char) :=
  match text with
  | u :: t :: c :: rest =>
    if u.toUpper = 'U' ∧ t.toUpper = 'T' ∧ c.toUpper = 'C' then some (0, rest) else offset? text
  | _ => offset? text

def date? (text : List Char) : Option (Timestamp × List Char) := do
  let (year, rest) ← year? text
  let rest ← separator? '-' rest
  let (month, rest) ← part? rest
  let rest ← separator? '-' rest
  let (day, rest) ← part? rest
  return (⟨year, month, day, 0, 0, 0, 0⟩, rest)

/-- A `T`, in either case, or a space. -/
def divider? : List Char → Option (List Char)
  | c :: rest => if c = 'T' ∨ c = 't' ∨ c = ' ' then some rest else none
  | [] => none

/-- The time that a text denotes. -/
def read? (text : List Char) : Option Timestamp := do
  let (date, rest) ← date? text
  let rest ← divider? rest
  let (hour, rest) ← part? rest
  let rest ← separator? ':' rest
  let (minute, rest) ← part? rest
  let rest ← separator? ':' rest
  let (second, rest) ← part? rest
  let (nano, rest) ← fraction? rest
  let (offset, rest) ← zone? (Text.trimStart rest)
  let here := { date with hour, minute, second, nano }
  if here.Valid ∧ offset.natAbs < 1440 ∧ Text.trimStart rest = [] then
    let t := here.addMinutes (-offset)
    if t.Valid then return t else none
  else none

/-- The UTC time at a second counted from 1970 on; a whole second of nanoseconds leads into the leap
second after it. -/
def ofUnix (seconds : Int) (nano : Nat) : Timestamp :=
  let days := seconds / 86400
  let ofDay := (seconds % 86400).toNat
  let shifted := days + 719468
  let era := shifted / 146097
  let dayOfEra := (shifted % 146097).toNat
  let yearOfEra := (dayOfEra - dayOfEra / 1460 + dayOfEra / 36524 - dayOfEra / 146096) / 365
  let dayOfYear := dayOfEra - (365 * yearOfEra + yearOfEra / 4 - yearOfEra / 100)
  let fromMarch := (5 * dayOfYear + 2) / 153
  let month := if fromMarch < 10 then fromMarch + 3 else fromMarch - 9
  { year := era * 400 + yearOfEra + (if month ≤ 2 then 1 else 0)
    month
    day := dayOfYear - (153 * fromMarch + 2) / 5 + 1
    hour := ofDay / 3600
    minute := ofDay / 60 % 60
    second := ofDay % 60 + nano / 1000000000
    nano := nano % 1000000000 }

end Timestamp

end DeviceGateway
