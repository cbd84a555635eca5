import LineagePorts.Pattern.Class
import LineagePorts.Text.Letter

/-!
# Patterns

A pattern is a regular expression: branches with bars between them, of atoms, classes and groups
that may be repeated. A group may have a name of its own or set flags, and flags may be set for the
rest of a group. There is no looking around, no way back to what a group has matched, and no
repetition by number.
-/

namespace LineagePorts.Pattern

/-- How deep a pattern may nest. -/
def maxDepth : Nat := 250

/-- A group that is open, or the whole pattern. -/
structure Group where
  /-- The mode behind the group. -/
  outer : Mode
  /-- How deep each finished branch nests. -/
  branches : List Nat
  /-- How deep each item of the present branch nests, last first. -/
  items : List Nat
  /-- Whether the last item may be repeated. -/
  isRepeatable : Bool

namespace Group

def start (outer : Mode) : Group := ⟨outer, [], [], false⟩

def add (g : Group) (depth : Nat) : Group :=
  { g with items := depth :: g.items, isRepeatable := true }

/-- Setting flags is an item that cannot be repeated. -/
def addFlags (g : Group) : Group :=
  { g with items := 0 :: g.items, isRepeatable := false }

def branch (g : Group) : Group :=
  { g with branches := nesting g.items :: g.branches, items := [], isRepeatable := false }

def repeated? (g : Group) : Option Group :=
  match g.items with
  | d :: ds => if g.isRepeatable then some { g with items := (d + 1) :: ds } else none
  | [] => none

def depth (g : Group) : Nat := nesting (nesting g.items :: g.branches)

end Group

def flagLetters : List Char := ['i', 'm', 's', 'U', 'u', 'R', 'x', '-']

/-- Flags are given once each. Those behind a hyphen are taken back, and there is at least one. -/
def areFlags (cs : List Char) : Bool :=
  cs.all flagLetters.contains && decide cs.Nodup && cs.getLast? ≠ some '-'

/-- The mode with flags set and taken back. -/
def Mode.switch (m : Mode) (flags : List Char) : Mode :=
  let on := flags.takeWhile (· ≠ '-')
  let value := fun c old => if flags.contains c then on.contains c else old
  ⟨value 'i' m.ignoresCase, !value 'u' !m.bytewise, value 'x' m.spaced⟩

def isName : List Char → Bool
  | [] => false
  | c :: cs =>
    (c = '_' || Text.isAlphabetic c) &&
      cs.all fun c => c = '_' || c = '.' || c = '[' || c = ']' || Text.isAlphanumeric c

/-- What an opening parenthesis begins. -/
inductive Opening where
  | group (inner : Mode)
  | namedGroup (name : List Char)
  | flags (after : Mode)

def name? (cs : List Char) : Option (Opening × List Char) :=
  let (name, rest) := cs.span (· ≠ '>')
  match rest with
  | '>' :: rest => if isName name then some (.namedGroup name, rest) else none
  | _ => none

def flags? (m : Mode) (cs : List Char) : Option (Opening × List Char) :=
  let (flags, rest) := cs.span fun c => c ≠ ':' && c ≠ ')'
  if areFlags flags then
    match rest with
    | ':' :: rest => some (.group (m.switch flags), rest)
    | ')' :: rest => if flags.isEmpty then none else some (.flags (m.switch flags), rest)
    | _ => none
  else none

def opening? (m : Mode) (cs : List Char) : Option (Opening × List Char) :=
  match m.skip cs with
  | '?' :: 'P' :: '<' :: rest => name? rest
  | '?' :: '<' :: rest => name? rest
  | '?' :: rest => flags? m rest
  | rest => some (.group m, rest)

/-- What is known of a pattern up to a place in it. -/
structure Reading where
  mode : Mode
  /-- The innermost open group. -/
  group : Group
  /-- The groups around it. -/
  outer : List Group
  /-- The names of groups so far. -/
  names : List (List Char)

namespace Reading

def start : Reading := ⟨.initial, .start .initial, [], []⟩

def add (r : Reading) (depth : Nat) : Reading := { r with group := r.group.add depth }

/-- The reading inside a new group. -/
def enter (r : Reading) (inner : Mode) : Reading :=
  { r with mode := inner, group := .start r.mode, outer := r.group :: r.outer }

def begin? (r : Reading) : Opening → Option Reading
  | .group inner => some (r.enter inner)
  | .namedGroup name =>
    if r.names.contains name then none
    else some { r.enter r.mode with names := name :: r.names }
  | .flags after => some { r with mode := after, group := r.group.addFlags }

/-- The reading behind the innermost group. -/
def leave? (r : Reading) : Option Reading :=
  match r.outer with
  | [] => none
  | g :: outer =>
    some { r with mode := r.group.outer, group := g.add (r.group.depth + 1), outer }

def addAtom? (r : Reading) (a : Atom) : Option Reading :=
  if a.isAllowed r.mode then some (r.add 0) else none

/-- The reading behind a mark of repetition and a question mark that makes it reluctant. -/
def repeat? (r : Reading) (cs : List Char) : Option (Reading × List Char) := do
  let group ← r.group.repeated?
  return ({ r with group }, if cs.head? = some '?' then cs.tail else cs)

/-- One item of a pattern, and the rest behind it. -/
def step? (r : Reading) : List Char → Option (Reading × List Char)
  | [] => none
  | '(' :: cs => do
    let (opening, rest) ← opening? r.mode cs
    return (← r.begin? opening, rest)
  | ')' :: cs => do return (← r.leave?, cs)
  | '|' :: cs => some ({ r with group := r.group.branch }, cs)
  | '[' :: cs => do
    let (depth, rest) ← readClass? r.mode cs
    return (r.add depth, rest)
  | '\x7b' :: _ => none
  | '\\' :: cs => do
    let (a, rest) ← escape? r.mode cs
    return (← r.addAtom? a, rest)
  | c :: cs =>
    if c = '*' || c = '+' || c = '?' then r.repeat? cs
    else do
      let a := if c = '.' then .any else if c = '^' || c = '$' then .lineEdge else .character c
      return (← r.addAtom? a, cs)

def run? : Nat → Reading → List Char → Option Reading
  | 0, _, _ => none
  | fuel + 1, r, cs =>
    match r.mode.skip cs with
    | [] => some r
    | cs => do
      let (r, rest) ← r.step? cs
      run? fuel r rest

/-- A pattern ends with all groups closed. -/
def isComplete (r : Reading) : Bool := r.outer.isEmpty && r.group.depth ≤ maxDepth

end Reading

def isValid (cs : List Char) : Bool :=
  (Reading.start.run? (cs.length + 1) cs).any Reading.isComplete

end LineagePorts.Pattern
