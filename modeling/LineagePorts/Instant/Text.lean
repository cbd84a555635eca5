import LineagePorts.Instant.Basic
import LineagePorts.Text.Blank
import LineagePorts.Text.Decimal

/-!
# Instants as text

An instant is written as RFC 3339 has it, in universal time, with the fewest of 0, 3, 6 or 9
fraction digits that lose nothing. Years outside 0 to 9999 carry a sign, and a leap second is
second 60. Reading allows more: white space between the parts, short numerals, any offset from
universal time of less than a day, and fraction digits beyond the ninth, which do not count.
-/

namespace LineagePorts.Instant

open Text (isSpace isDigit ofDecimal padded decimalWidth trimStart)

def writeYear (year : Int) : List Char :=
  if 0 ≤ year ∧ year ≤ 9999 then padded 4 year.toNat
  else (if year < 0 then '-' else '+') :: decimalWidth 4 year.natAbs

def writeFraction (nano : Nat) : List Char :=
  if nano = 0 then []
  else if nano % 1000000 = 0 then '.' :: padded 3 (nano / 1000000)
  else if nano % 1000 = 0 then '.' :: padded 6 (nano / 1000)
  else '.' :: padded 9 nano

def write (t : Instant) : List Char :=
  let leap := 1000000000 ≤ t.nano
  writeYear t.date.year ++ '-' :: padded 2 t.date.month ++ '-' :: padded 2 t.date.day ++
    'T' :: padded 2 (t.second / 3600) ++ ':' :: padded 2 (t.second / 60 % 60) ++
    ':' :: padded 2 (t.second % 60 + if leap then 1 else 0) ++
    writeFraction (if leap then t.nano - 1000000000 else t.nano) ++ ['Z']

def text (t : Instant) : String := String.ofList t.write

/-- A numeral of one to `most` digits at the start of a text, and the rest. -/
def scanNumeral (most : Nat) (cs : List Char) : Option (Nat × List Char) :=
  let ds := (cs.take most).takeWhile isDigit
  if ds.isEmpty then none else some (ofDecimal ds, cs.drop ds.length)

/-- A numeral with white space in front. -/
def scanSpacedNumeral (most : Nat) (cs : List Char) : Option (Nat × List Char) :=
  scanNumeral most (trimStart cs)

/-- A mark with white space in front. -/
def scanMark (mark : Char) (cs : List Char) : Option (List Char) :=
  match trimStart cs with
  | c :: r => if c = mark then some r else none
  | [] => none

/-- A year of at most four digits, or of any number of digits behind a sign. -/
def scanYear (cs : List Char) : Option (Int × List Char) :=
  match trimStart cs with
  | '-' :: r => (scanNumeral r.length r).map fun (n, r) => (-(n : Int), r)
  | '+' :: r => (scanNumeral r.length r).map fun (n, r) => ((n : Int), r)
  | r => (scanNumeral 4 r).map fun (n, r) => ((n : Int), r)

/-- The nanoseconds of a fraction, if there is one. -/
def scanFraction : List Char → Option (Nat × List Char)
  | '.' :: cs =>
    let ds := cs.takeWhile isDigit
    if ds.isEmpty then none
    else some (ofDecimal ((ds.take 9).rightpad 9 '0'), cs.drop ds.length)
  | cs => some (0, cs)

def scanTwoDigits : List Char → Option (Nat × List Char)
  | a :: b :: r => if isDigit a && isDigit b then some (ofDecimal [a, b], r) else none
  | _ => none

/-- Hours and minutes of an offset in seconds. Any colons and white space may stand between. -/
def scanHoursMinutes (cs : List Char) : Option (Nat × List Char) := do
  let (hours, cs) ← scanTwoDigits cs
  let (minutes, cs) ← scanTwoDigits (cs.dropWhile fun c => c = ':' || isSpace c)
  if minutes < 60 then some (hours * 3600 + minutes * 60, cs) else none

def isZone (cs : List Char) : Bool :=
  cs.map Char.toUpper = ['U', 'T', 'C']

/-- The offset from universal time in seconds. -/
def scanOffset (cs : List Char) : Option (Int × List Char) :=
  if isZone (cs.take 3) then some (0, cs.drop 3)
  else
    match cs with
    | 'Z' :: r => some (0, r)
    | 'z' :: r => some (0, r)
    | '+' :: r => (scanHoursMinutes r).map fun (n, r) => ((n : Int), r)
    | '-' :: r => (scanHoursMinutes r).map fun (n, r) => (-(n : Int), r)
    | '\u2212' :: r => (scanHoursMinutes r).map fun (n, r) => (-(n : Int), r)
    | _ => none

def scanDate (cs : List Char) : Option (Date × List Char) := do
  let (year, cs) ← scanYear cs
  let cs ← scanMark '-' cs
  let (month, cs) ← scanSpacedNumeral 2 cs
  let cs ← scanMark '-' cs
  let (day, cs) ← scanSpacedNumeral 2 cs
  return (← Date.of? year month day, cs)

/-- Second of the day and nanoseconds. Second 60 is a leap second. -/
def scanTime (cs : List Char) : Option ((Nat × Nat) × List Char) := do
  let (hour, cs) ← scanSpacedNumeral 2 cs
  let cs ← scanMark ':' cs
  let (minute, cs) ← scanSpacedNumeral 2 cs
  let cs ← scanMark ':' cs
  let (second, cs) ← scanSpacedNumeral 2 cs
  let (nano, cs) ← scanFraction cs
  if hour < 24 && minute < 60 && second ≤ 60 then
    let minutes := hour * 60 + minute
    if second = 60 then some ((minutes * 60 + 59, nano + 1000000000), cs)
    else some ((minutes * 60 + second, nano), cs)
  else none

/-- The instant at which clocks that are `offset` seconds ahead show this date and time. -/
def atOffset? (date : Date) (second nano : Nat) (offset : Int) : Option Instant := do
  if offset.natAbs < 86400 then
    let universal := (second : Int) - offset
    if universal < 0 then of? (← date.previous?) (universal + 86400).toNat nano
    else if universal < 86400 then of? date universal.toNat nano
    else of? (← date.next?) (universal - 86400).toNat nano
  else none

def ofText? (s : String) : Option Instant := do
  let (date, cs) ← scanDate s.toList
  match cs with
  | [] => none
  | separator :: cs =>
    if separator = 'T' || separator = 't' || separator = ' ' then
      let ((second, nano), cs) ← scanTime cs
      let (offset, cs) ← scanOffset (trimStart cs)
      if (trimStart cs).isEmpty then atOffset? date second nano offset else none
    else none

end LineagePorts.Instant
