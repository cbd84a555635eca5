import LineagePorts.Data.Basic
import LineagePorts.Text.Decimal
import LineagePorts.Toml.Text

/-!
# Numbers, dates and truth values of TOML

What stands in a TOML text for a number, a date or a truth value. Dates are tried before numbers
and fractions before integers, because a date starts like a number.
-/

namespace LineagePorts.Toml

open Text (isDigit ofDecimal padded)

/-- Digits of which `isOne` holds, with single underscores between them. -/
def scanDigitsFrom (isOne : Char → Bool) (behindDigit : Bool) : List Char → List Char × List Char
  | [] => ([], [])
  | c :: cs =>
    if isOne c then
      let (digits, rest) := scanDigitsFrom isOne true cs
      (c :: digits, rest)
    else if c = '_' && behindDigit && cs.head?.any isOne then scanDigitsFrom isOne false cs
    else ([], c :: cs)

def scanDigits (isOne : Char → Bool) (cs : List Char) : List Char × List Char :=
  scanDigitsFrom isOne false cs

/-- A sign, if there is one: whether it is a minus, and the rest. -/
def scanSign : List Char → Bool × List Char
  | '-' :: cs => (true, cs)
  | '+' :: cs => (false, cs)
  | cs => (false, cs)

/-- Decimal digits of which the first is zero only if it is the only one. -/
def scanWhole : List Char → Option (List Char × List Char)
  | '0' :: cs => some (['0'], cs)
  | cs =>
    let (digits, rest) := scanDigits isDigit cs
    if digits.isEmpty then none else some (digits, rest)

def negateIf (negative : Bool) (n : Nat) : Int :=
  if negative then -n else n

def scanExponent : List Char → Option (Int × List Char)
  | c :: cs =>
    if c = 'e' || c = 'E' then
      let (negative, cs) := scanSign cs
      let (digits, rest) := scanDigits isDigit cs
      if digits.isEmpty then none else some (negateIf negative (ofDecimal digits), rest)
    else none
  | [] => none

/-- A number with a fraction, an exponent or both. It may not round to plus infinity. -/
def real? (cs : List Char) : Option (Data × List Char) := do
  let (negative, cs) := scanSign cs
  let (whole, cs) ← scanWhole cs
  let (fraction, cs, marked) ← match cs with
    | '.' :: r =>
      let (digits, rest) := scanDigits isDigit r
      if digits.isEmpty then none else some (digits, rest, true)
    | _ => some ([], cs, false)
  let (exponent, cs) ← match scanExponent cs with
    | some (e, rest) => some (e, rest)
    | none => if marked then some (0, cs) else none
  let mantissa := ofDecimal (whole ++ fraction)
  let exponent := exponent - fraction.length
  if negative || Data.isFinite mantissa exponent then
    return (.real (negateIf negative mantissa) exponent, cs)
  else none

/-- An infinity or the value that is no number. -/
def special? (cs : List Char) : Option (Data × List Char) :=
  match (scanSign cs).2 with
  | 'i' :: 'n' :: 'f' :: rest => some (.garbled, rest)
  | 'n' :: 'a' :: 'n' :: rest => some (.garbled, rest)
  | _ => none

def isHexDigit (c : Char) : Bool := (Text.hexValue? c).isSome

def isOctalDigit (c : Char) : Bool := '0' ≤ c && c ≤ '7'

def isBinaryDigit (c : Char) : Bool := c = '0' || c = '1'

/-- An integer if it fits into 64 bits. -/
def integer (n : Int) (rest : List Char) : Option (Data × List Char) :=
  if -9223372036854775808 ≤ n ∧ n ≤ 9223372036854775807 then some (.int n, rest) else none

def based (base : Nat) (isOne : Char → Bool) (cs : List Char) : Option (Data × List Char) :=
  let (digits, rest) := scanDigits isOne cs
  if digits.isEmpty then none
  else integer (digits.foldl (fun n c => n * base + (Text.hexValue? c).getD 0) 0 : Nat) rest

def integer? : List Char → Option (Data × List Char)
  | '0' :: 'x' :: cs => based 16 isHexDigit cs
  | '0' :: 'o' :: cs => based 8 isOctalDigit cs
  | '0' :: 'b' :: cs => based 2 isBinaryDigit cs
  | cs => do
    let (negative, cs) := scanSign cs
    let (digits, rest) ← scanWhole cs
    integer (negateIf negative (ofDecimal digits)) rest

def twoDigits? : List Char → Option (Nat × List Char)
  | a :: b :: rest => if isDigit a && isDigit b then some (ofDecimal [a, b], rest) else none
  | _ => none

def mark? (c : Char) : List Char → Option (List Char)
  | d :: rest => if d = c then some rest else none
  | [] => none

def daysIn (year month : Nat) : Nat :=
  if month = 2 then
    if year % 4 = 0 && (year % 100 ≠ 0 || year % 400 = 0) then 29 else 28
  else if month = 4 || month = 6 || month = 9 || month = 11 then 30
  else 31

/-- A date, as it is written out again, and the rest. -/
def date? (cs : List Char) : Option (List Char × List Char) := do
  let (century, cs) ← twoDigits? cs
  let (yearOfCentury, cs) ← twoDigits? cs
  let cs ← mark? '-' cs
  let (month, cs) ← twoDigits? cs
  let cs ← mark? '-' cs
  let (day, cs) ← twoDigits? cs
  let year := century * 100 + yearOfCentury
  if 1 ≤ month && month ≤ 12 && 1 ≤ day && day ≤ daysIn year month then
    return (padded 4 year ++ '-' :: padded 2 month ++ '-' :: padded 2 day, cs)
  else none

/-- Up to nine digits of a fraction without the zeros at its end, behind a point. -/
def fractionText (digits : List Char) : List Char :=
  match ((digits.take 9).reverse.dropWhile fun c => c = '0').reverse with
  | [] => []
  | kept => '.' :: kept

def time? (cs : List Char) : Option (List Char × List Char) := do
  let (hour, cs) ← twoDigits? cs
  let cs ← mark? ':' cs
  let (minute, cs) ← twoDigits? cs
  let cs ← mark? ':' cs
  let (second, cs) ← twoDigits? cs
  let (fraction, cs) := match cs with
    | '.' :: r => if (r.takeWhile isDigit).isEmpty then ([], cs) else r.span isDigit
    | _ => ([], cs)
  if hour < 24 && minute < 60 && second ≤ 60 then
    return (padded 2 hour ++ ':' :: padded 2 minute ++ ':' :: padded 2 second ++
      fractionText fraction, cs)
  else none

/-- An offset, as it is written out again, and the rest. An offset of zero has a plus sign. -/
def offset? : List Char → Option (List Char × List Char)
  | [] => none
  | c :: cs =>
    if c = 'Z' || c = 'z' then some (['Z'], cs)
    else if c = '+' || c = '-' then do
      let (hour, cs) ← twoDigits? cs
      let cs ← mark? ':' cs
      let (minute, cs) ← twoDigits? cs
      if hour < 24 && minute < 60 then
        let sign := if hour = 0 && minute = 0 then '+' else c
        return (sign :: padded 2 hour ++ ':' :: padded 2 minute, cs)
      else none
    else none

/-- A time behind a date, with or without an offset. -/
def timeOfDate? : List Char → Option (List Char × List Char)
  | c :: cs =>
    if c = 'T' || c = 't' || c = ' ' then do
      let (time, cs) ← time? cs
      match offset? cs with
      | some (offset, rest) => return ('T' :: time ++ offset, rest)
      | none => return ('T' :: time, cs)
    else none
  | [] => none

/-- The reserved name under which a date is handed on. -/
def dateField : String := "$__toml_private_datetime"

/-- A date, a time, or both. It is handed on as a record whose only field is its text. -/
def dateTime? (cs : List Char) : Option (Data × List Char) := do
  let (text, rest) ←
    match date? cs with
    | some (date, rest) =>
      match timeOfDate? rest with
      | some (time, rest) => some (date ++ time, rest)
      | none => some (date, rest)
    | none => time? cs
  return (.record [(dateField, .text (String.ofList text))], rest)

def truth? : List Char → Option (Data × List Char)
  | 't' :: 'r' :: 'u' :: 'e' :: rest => some (.bool true, rest)
  | 'f' :: 'a' :: 'l' :: 's' :: 'e' :: rest => some (.bool false, rest)
  | _ => none

/-- A value that is neither a text nor a list nor a table. -/
def scalar? (cs : List Char) : Option (Data × List Char) :=
  (dateTime? cs).or ((real? cs).or ((special? cs).or ((truth? cs).or (integer? cs))))

end LineagePorts.Toml
