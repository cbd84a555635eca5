import LineagePorts.Data.Basic
import LineagePorts.Text.Decimal
import LineagePorts.Text.Hexadecimal

/-!
# Tokens of a JSON text

A JSON text is cut into marks, names, numbers and texts, with white space between them. Two values
never stand side by side in JSON, so cutting needs no separator after a number.
-/

namespace LineagePorts.Json

inductive Token where
  | openRecord
  | closeRecord
  | openList
  | closeList
  | colon
  | comma
  | null
  | bool (b : Bool)
  | int (n : Int)
  | real (mantissa exponent : Int)
  | text (s : String)
  /-- A text with half a surrogate pair. -/
  | garbled
deriving DecidableEq

def isSpace (c : Char) : Bool :=
  c = ' ' || c = '\n' || c = '\t' || c = '\r'

/-- The UTF-16 unit that four hexadecimal digits denote. -/
def unit? (a b c d : Char) : Option Nat := Text.ofHexadecimal? [a, b, c, d]

def isLeading (unit : Nat) : Bool := 0xD800 ≤ unit && unit ≤ 0xDBFF

def isTrailing (unit : Nat) : Bool := 0xDC00 ≤ unit && unit ≤ 0xDFFF

def pairChar (leading trailing : Nat) : Char :=
  Char.ofNat ((leading - 0xD800) * 1024 + (trailing - 0xDC00) + 0x10000)

/-- The character that a backslash and this letter stand for. -/
def escaped? : Char → Option Char
  | '"' => some '"'
  | '\\' => some '\\'
  | '/' => some '/'
  | 'b' => some '\x08'
  | 'f' => some '\x0c'
  | 'n' => some '\n'
  | 'r' => some '\r'
  | 't' => some '\t'
  | _ => none

/-- A text that is being read: its characters so far, last first, whether every surrogate had its
partner, and a leading surrogate that still waits for one. -/
structure OpenText where
  done : List Char
  whole : Bool
  leading : Option Nat

namespace OpenText

def start : OpenText := ⟨[], true, none⟩

def push (p : OpenText) (c : Char) : OpenText :=
  ⟨c :: p.done, p.whole && p.leading.isNone, none⟩

def pushUnit (p : OpenText) (unit : Nat) : OpenText :=
  if isLeading unit then ⟨p.done, p.whole && p.leading.isNone, some unit⟩
  else if isTrailing unit then
    match p.leading with
    | some leading => ⟨pairChar leading unit :: p.done, p.whole, none⟩
    | none => ⟨p.done, false, none⟩
  else p.push (Char.ofNat unit)

def finish (p : OpenText) : Token :=
  if p.whole && p.leading.isNone then .text (String.ofList p.done.reverse) else .garbled

end OpenText

/-- Reads a text up to its closing quote. -/
def scanText (p : OpenText) : List Char → Option (Token × List Char)
  | [] => none
  | '"' :: cs => some (p.finish, cs)
  | '\\' :: 'u' :: a :: b :: c :: d :: cs =>
    match unit? a b c d with
    | none => none
    | some unit => scanText (p.pushUnit unit) cs
  | '\\' :: c :: cs =>
    match escaped? c with
    | none => none
    | some e => scanText (p.push e) cs
  | c :: cs => if c.toNat < 0x20 then none else scanText (p.push c) cs

def negateIf (negative : Bool) (n : Nat) : Int :=
  if negative then -n else n

/-- The exponent part of a number, if one follows: its value and the rest. -/
def scanExponent : List Char → Option (Option Int × List Char)
  | c :: cs =>
    if c = 'e' || c = 'E' then
      let (negative, cs) : Bool × List Char := match cs with
        | '-' :: r => (true, r)
        | '+' :: r => (false, r)
        | r => (false, r)
      let (ds, r) := cs.span Text.isDigit
      if ds.isEmpty then none else some (some (negateIf negative (Text.ofDecimal ds)), r)
    else some (none, c :: cs)
  | [] => some (none, [])

/-- The fraction part of a number, if one follows: its digits and the rest. -/
def scanFraction : List Char → Option (Option (List Char) × List Char)
  | '.' :: cs =>
    let (ds, r) := cs.span Text.isDigit
    if ds.isEmpty then none else some (some ds, r)
  | cs => some (none, cs)

def largestWord : Nat := 18446744073709551615

/-- Appends digits to a number as long as it fits into 64 bits. Gives the number and how many
digits are left over. -/
def appendDigits (n : Nat) : List Char → Nat × Nat
  | [] => (n, 0)
  | d :: ds =>
    let next := n * 10 + Text.digitValue d
    if next ≤ largestWord then appendDigits next ds else (n, ds.length + 1)

/-- Reads what follows the integer digits `whole` of a number. A number without fraction and
exponent that fits into 64 bits is an integer, except that integers have no negative zero. Of any
other number, the digits that do not fit into 64 bits count as zeros. -/
def scanTail (negative : Bool) (whole : List Char) (cs : List Char) :
    Option (Token × List Char) := do
  let (fraction, cs) ← scanFraction cs
  let (exponent, cs) ← scanExponent cs
  let digits := fraction.getD []
  let (leading, spare) := appendDigits 0 whole
  let (mantissa, unused) := appendDigits leading digits
  if fraction.isNone && exponent.isNone && spare = 0 && !(negative && mantissa = 0) then
    return (.int (negateIf negative mantissa), cs)
  else
    let shift : Int := spare - (digits.length - unused : Nat)
    return (.real (negateIf negative mantissa) (exponent.getD 0 + shift), cs)

def scanNumber (negative : Bool) : List Char → Option (Token × List Char)
  | '0' :: cs => scanTail negative ['0'] cs
  | cs =>
    let (whole, r) := cs.span Text.isDigit
    if whole.isEmpty then none else scanTail negative whole r

/-- The token at the start of a text that starts with no white space. -/
def token? : List Char → Option (Token × List Char)
  | '\x7b' :: cs => some (.openRecord, cs)
  | '\x7d' :: cs => some (.closeRecord, cs)
  | '[' :: cs => some (.openList, cs)
  | ']' :: cs => some (.closeList, cs)
  | ':' :: cs => some (.colon, cs)
  | ',' :: cs => some (.comma, cs)
  | '"' :: cs => scanText .start cs
  | 'n' :: 'u' :: 'l' :: 'l' :: cs => some (.null, cs)
  | 't' :: 'r' :: 'u' :: 'e' :: cs => some (.bool true, cs)
  | 'f' :: 'a' :: 'l' :: 's' :: 'e' :: cs => some (.bool false, cs)
  | '-' :: cs => scanNumber true cs
  | cs => scanNumber false cs

/-- The tokens of a text after those of `done`, which stand last first. Each step takes at least
one character, so that `fuel` of the text's length is enough. -/
def scan : Nat → List Token → List Char → Option (List Token)
  | _, done, [] => some done.reverse
  | 0, _, _ :: _ => none
  | fuel + 1, done, c :: cs =>
    if isSpace c then scan fuel done cs
    else
      match token? (c :: cs) with
      | none => none
      | some (t, r) => scan fuel (t :: done) r

def tokens (cs : List Char) : Option (List Token) :=
  scan cs.length [] cs

end LineagePorts.Json
