/-!
# ULIDs

A ULID is a 128-bit number: 48 bits of milliseconds, then 80 random bits. Its text is 26 digits of
Crockford's base 32, most significant first, upper case when written and of either case when read.
The 26 digits hold 130 bits, so the two top bits of the first digit are dropped on reading.
-/

namespace LineagePorts

namespace Ulid

/-- How many random parts there are: 80 bits. -/
def randomParts : Nat := 1208925819614629174706176

/-- How many readings of the clock there are: 48 bits. -/
def clockReadings : Nat := 281474976710656

/-- How many ULIDs there are: 128 bits. -/
def count : Nat := 340282366920938463463374607431768211456

end Ulid

structure Ulid where
  value : Nat
  bound : value < Ulid.count
deriving DecidableEq

namespace Ulid

/-- Why a text is no ULID: its length in UTF-8 bytes is not 26, or some byte is no digit. -/
inductive Flaw where
  | invalidLength
  | invalidCharacter
deriving DecidableEq

def Flaw.message : Flaw → String
  | .invalidLength => "invalid length"
  | .invalidCharacter => "invalid character"

def length : Nat := 26

/-- The digits in ascending order: the letters I, L, O and U are left out. -/
def alphabet : List Char := "0123456789ABCDEFGHJKMNPQRSTVWXYZ".toList

def digit (n : Nat) : Char := alphabet.getD n '0'

def digitValue? (c : Char) : Option Nat :=
  if c.toNat < 128 then alphabet.idxOf? c.toUpper else none

/-- The last `count` base-32 digits of a number, most significant first. -/
def digits : Nat → Nat → List Char
  | 0, _ => []
  | count + 1, n => digits count (n / 32) ++ [digit (n % 32)]

/-- The number that a list of digits denotes, read on from `high`. -/
def evaluate : Nat → List Char → Option Nat
  | high, [] => some high
  | high, c :: cs =>
    match digitValue? c with
    | none => none
    | some d => evaluate (high * 32 + d) cs

def ofNat (n : Nat) : Ulid :=
  ⟨n % count, Nat.mod_lt _ (by decide)⟩

def text (u : Ulid) : String :=
  String.ofList (digits length u.value)

def ofText (s : String) : Except Flaw Ulid :=
  if s.utf8ByteSize = length then
    match evaluate 0 s.toList with
    | some n => .ok (ofNat n)
    | none => .error .invalidCharacter
  else .error .invalidLength

/-- The milliseconds of a ULID. -/
def milliseconds (u : Ulid) : Nat := u.value / randomParts

/-- The ULID of a clock reading in milliseconds, of which the low 48 bits are kept, and of a random
part, of which the low 80 bits are kept. -/
def ofParts (milliseconds : Int) (random : Nat) : Ulid :=
  ofNat ((milliseconds % clockReadings).toNat * randomParts + random % randomParts)

/-- The ULID all of whose bits are zero. -/
def zero : Ulid := ofNat 0

theorem ext {a b : Ulid} (h : a.value = b.value) : a = b := by
  cases a
  cases b
  simpa using h

theorem ofNat_value (u : Ulid) : ofNat u.value = u :=
  ext (Nat.mod_eq_of_lt u.bound)

end Ulid

end LineagePorts
