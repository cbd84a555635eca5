import LineagePorts.Text.Blank
import LineagePorts.Text.Hexadecimal

/-!
# Atoms of patterns

The smallest parts of a regular expression, how they are written with a backslash, and which of
them a mode admits. Patterns have no tables of characters: kinds of characters, edges of words and
letters of either case are known for ASCII only, so they need the mode that goes by bytes. In that
mode nothing may match a byte beyond ASCII by itself.
-/

namespace LineagePorts.Pattern

/-- How the text that follows is read. -/
structure Mode where
  ignoresCase : Bool
  /-- Matches go by bytes and not by characters. -/
  bytewise : Bool
  /-- Blanks and comments are passed over. -/
  spaced : Bool

/-- The mode in which a pattern starts. -/
def Mode.initial : Mode := ⟨false, false, false⟩

/-- The rest behind blanks and comments, where a comment goes from `#` to the end of its line. -/
def dropBlanks (inComment : Bool) : List Char → List Char
  | [] => []
  | c :: cs =>
    if inComment then dropBlanks (c ≠ '\n') cs
    else if Text.isSpace c then dropBlanks false cs
    else if c = '#' then dropBlanks true cs
    else c :: cs

def Mode.skip (m : Mode) (cs : List Char) : List Char :=
  if m.spaced then dropBlanks false cs else cs

inductive Atom where
  | character (c : Char)
  /-- A number of two hexadecimal digits, which is a byte where matches go by bytes. -/
  | octet (n : Nat)
  | any
  /-- The digits, the white space or the characters of words, or all but these. -/
  | kind (negated : Bool)
  | lineEdge
  | wordEdge

namespace Atom

/-- Whether the atom may stand in a class. -/
def isMember (m : Mode) : Atom → Bool
  | .character c => if m.bytewise then c.toNat < 0x80 else !m.ignoresCase
  | .octet n => if m.bytewise then n < 0x80 else !m.ignoresCase
  | .kind negated => m.bytewise && !negated
  | _ => false

/-- Whether the atom may stand outside of classes. -/
def isAllowed (m : Mode) : Atom → Bool
  | .character _ => m.bytewise || !m.ignoresCase
  | .any => !m.bytewise
  | .lineEdge => true
  | .wordEdge => m.bytewise
  | a => a.isMember m

def code? : Atom → Option Nat
  | .character c => some c.toNat
  | .octet n => some n
  | _ => none

end Atom

/-- The number that `count` hexadecimal digits denote, and the rest. -/
def hexNumber? (m : Mode) : Nat → Nat → List Char → Option (Nat × List Char)
  | 0, n, cs => some (n, cs)
  | _ + 1, _, [] => none
  | count + 1, n, c :: cs => do hexNumber? m count (n * 16 + (← Text.hexValue? c)) (m.skip cs)

/-- A character by its code point. -/
def codePoint? (m : Mode) (count : Nat) (cs : List Char) : Option (Atom × List Char) := do
  let (n, rest) ← hexNumber? m count 0 (m.skip cs)
  if h : n.isValidChar then return (.character (Char.ofNatAux n h), rest) else none

/-- The controls that have a letter. -/
def control? : Char → Option Char
  | 'a' => some '\x07'
  | 't' => some '\t'
  | 'n' => some '\n'
  | 'v' => some '\x0b'
  | 'f' => some '\x0c'
  | 'r' => some '\r'
  | _ => none

/-- What stands behind a backslash, and the rest. Every mark of ASCII but `<` and `>` may be
escaped, whether it needs to be or not. Numbers in braces and classes by property are not
available. -/
def escape? (m : Mode) : List Char → Option (Atom × List Char)
  | [] => none
  | 'x' :: cs => do
    let (n, rest) ← hexNumber? m 2 0 (m.skip cs)
    return (.octet n, rest)
  | 'u' :: cs => codePoint? m 4 cs
  | 'U' :: cs => codePoint? m 8 cs
  | c :: cs =>
    if c = 'd' || c = 's' || c = 'w' then some (.kind false, cs)
    else if c = 'D' || c = 'S' || c = 'W' then some (.kind true, cs)
    else if c = 'A' || c = 'z' then some (.lineEdge, cs)
    else if c = 'b' || c = 'B' || c = '<' || c = '>' then some (.wordEdge, cs)
    else if c.isAlphanum then (control? c).map fun d => (.character d, cs)
    else if c.toNat < 0x80 then some (.character c, cs)
    else none

end LineagePorts.Pattern
