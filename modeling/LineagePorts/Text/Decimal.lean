/-!
# Decimal numerals

Numbers in decimal digits without leading zeros, numerals of a fixed width, and the number that a
list of digits denotes.
-/

namespace LineagePorts.Text

def decimalDigit (n : Nat) : Char := Char.ofNat (48 + n)

def decimal (n : Nat) : List Char :=
  if n < 10 then [decimalDigit n] else decimal (n / 10) ++ [decimalDigit (n % 10)]

/-- The last `width` decimal digits of a number. -/
def padded : Nat → Nat → List Char
  | 0, _ => []
  | width + 1, n => padded width (n / 10) ++ [decimalDigit (n % 10)]

/-- A numeral of at least `width` digits. -/
def decimalWidth (width n : Nat) : List Char :=
  (decimal n).leftpad width '0'

def signed : Int → List Char
  | .ofNat n => decimal n
  | .negSucc n => '-' :: decimal (n + 1)

def isDigit (c : Char) : Bool := '0' ≤ c && c ≤ '9'

def digitValue (c : Char) : Nat := c.toNat - 48

/-- The number that decimal digits denote. -/
def ofDecimal (cs : List Char) : Nat :=
  cs.foldl (fun n c => n * 10 + digitValue c) 0

end LineagePorts.Text
