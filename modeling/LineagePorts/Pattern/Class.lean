import LineagePorts.Pattern.Atom

/-!
# Classes of characters

A class stands in brackets. It has characters, ranges, kinds of characters, classes of ASCII by
name and further classes, and operators between lists of these. How deep it nests counts, because
patterns may nest only so deep.
-/

namespace LineagePorts.Pattern

/-- How deep a row of items nests. A single item stands for itself. -/
def nesting : List Nat → Nat
  | [] => 0
  | [n] => n
  | ns => ns.foldl max 0 + 1

/-- An open bracket. -/
structure Bracket where
  /-- How deep the operands in front of the last operator nest. -/
  before : Option Nat
  /-- How deep each item of the present operand nests. -/
  items : List Nat
  /-- Nothing but hyphens has come yet. -/
  isFresh : Bool

namespace Bracket

def empty : Bracket := ⟨none, [], true⟩

def add (b : Bracket) (depth : Nat) : Bracket :=
  { b with items := depth :: b.items, isFresh := false }

def depth (b : Bracket) : Nat :=
  match b.before with
  | none => nesting b.items
  | some n => max n (nesting b.items) + 1

/-- The bracket behind an operator. -/
def operator (b : Bracket) : Bracket := ⟨some b.depth, [], false⟩

/-- At the start of a bracket hyphens stand for themselves, and so does a closing bracket that is
the first character. -/
def takes (b : Bracket) (c : Char) : Bool :=
  b.isFresh && (c = '-' || (c = ']' && b.items.isEmpty))

end Bracket

def asciiNames : List String :=
  ["alnum", "alpha", "ascii", "blank", "cntrl", "digit", "graph", "lower", "print", "punct",
    "space", "upper", "word", "xdigit"]

/-- A class by name behind its opening bracket: whether it is negated, and the rest. -/
def named? : List Char → Option (Bool × List Char)
  | ':' :: cs =>
    let negated : Bool := cs.head? = some '^'
    let (name, rest) := (if negated then cs.tail else cs).span (· ≠ ':')
    match rest with
    | ':' :: ']' :: rest =>
      if asciiNames.contains (String.ofList name) then some (negated, rest) else none
    | _ => none
  | _ => none

def Mode.allowsNamed (m : Mode) (negated : Bool) : Bool :=
  if m.bytewise then !negated else !m.ignoresCase

/-- A class is open behind its bracket. It may not be negated where matches go by bytes. -/
def opened? (m : Mode) (cs : List Char) : Option (Bracket × List Char) :=
  match m.skip cs with
  | '^' :: rest => if m.bytewise then none else some (.empty, rest)
  | rest => some (.empty, rest)

/-- The character behind a hyphen. Of a comment in between only the mark is passed over. -/
def Mode.peek (m : Mode) (cs : List Char) : Option Char :=
  if !m.spaced then cs.head?
  else
    match cs.dropWhile Text.isSpace with
    | '#' :: rest => (rest.dropWhile Text.isSpace).head?
    | rest => rest.head?

def atom? (m : Mode) : List Char → Option (Atom × List Char)
  | [] => none
  | '\\' :: cs => escape? m cs
  | c :: cs => some (.character c, cs)

def isRange (first last : Atom) : Bool :=
  match first.code?, last.code? with
  | some a, some b => a ≤ b
  | _, _ => false

/-- The rest behind an atom or a range. A hyphen in front of a hyphen or of the closing bracket
makes no range. -/
def skipRange? (m : Mode) (cs : List Char) : Option (List Char) := do
  let (first, rest) ← atom? m cs
  guard (first.isMember m)
  match m.skip rest with
  | '-' :: more =>
    if (m.peek more).any fun c => c = ']' || c = '-' then return '-' :: more
    let (last, rest) ← atom? m (m.skip more)
    guard (last.isMember m && isRange first last)
    return rest
  | rest => return rest

/-- How deep the class nests of which the brackets are open, innermost first, and the rest behind
it. -/
def closed? (m : Mode) : Nat → List Bracket → List Char → Option (Nat × List Char)
  | fuel + 1, b :: outer, cs =>
    match m.skip cs with
    | [] => none
    | c :: rest =>
      if b.takes c then
        if (Atom.character c).isMember m then
          closed? m fuel ({ b.add 0 with isFresh := c = '-' } :: outer) rest
        else none
      else
        match c, rest with
        | '[', rest =>
          match named? rest with
          | some (negated, rest) =>
            if m.allowsNamed negated then closed? m fuel (b.add 0 :: outer) rest else none
          | none => do
            let (inner, rest) ← opened? m rest
            closed? m fuel (inner :: { b with isFresh := false } :: outer) rest
        | ']', rest =>
          match outer with
          | [] => some (b.depth + 1, rest)
          | o :: outer => closed? m fuel (o.add (b.depth + 1) :: outer) rest
        | '&', '&' :: rest => closed? m fuel (b.operator :: outer) rest
        | '-', '-' :: rest => closed? m fuel (b.operator :: outer) rest
        | '~', '~' :: rest => closed? m fuel (b.operator :: outer) rest
        | c, rest => do closed? m fuel (b.add 0 :: outer) (← skipRange? m (c :: rest))
  | _, _, _ => none

/-- How deep the class behind an opening bracket nests, and the rest behind it. -/
def readClass? (m : Mode) (cs : List Char) : Option (Nat × List Char) := do
  let (b, rest) ← opened? m cs
  closed? m (rest.length + 1) [b] rest

end LineagePorts.Pattern
